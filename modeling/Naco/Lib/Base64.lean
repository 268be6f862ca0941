import Naco.Lib.Bytes
import Naco.Lib.Python
import Mathlib.Data.Nat.Notation

/-!
# Base64 and hex

`base64` writes three bytes as four characters of its alphabet, and pads the last group. The decoder goes
character by character with the bits that are left over from the last one; only its strict mode refuses
characters outside the alphabet.
-/

namespace Py

def base64Alphabet : List Char :=
  "ABCDEFGHIJKLMNOPQRSTUVWXYZabcdefghijklmnopqrstuvwxyz0123456789+/".toList

def base64Char (value : Nat) : Char :=
  base64Alphabet.getD value '='

/-- The six bits that a character stands for. -/
def sextet (c : Char) : Option Nat :=
  base64Alphabet.findIdx? (· = c)

def encodeGroups : List Nat → List Char
  | [] => []
  | [a] => [base64Char (a / 4), base64Char (a % 4 * 16), '=', '=']
  | [a, b] => [base64Char (a / 4), base64Char (a % 4 * 16 + b / 16), base64Char (b % 16 * 4), '=']
  | a :: b :: c :: raw =>
      base64Char (a / 4) :: base64Char (a % 4 * 16 + b / 16) :: base64Char (b % 16 * 4 + c / 64) ::
        base64Char (c % 64) :: encodeGroups raw

/-- `base64.b64encode`. -/
def b64encode (raw : Bytes) : String :=
  String.ofList (encodeGroups (raw.map (·.toNat)))

/-- Where the decoder is in a group of four: the characters read of it, the bits that are left over, the
padding in the group, and whether there was any padding yet. -/
structure Group64 where
  read : Nat := 0
  left : Nat := 0
  pads : Nat := 0
  padded : Bool := false
  deriving DecidableEq, Repr

/-- `binascii.Error` is a `ValueError`. -/
def binasciiError {α : Type} (message : String) : Except Error α :=
  .error (.valueError message)

/-- The byte that six more bits complete, if they do, and the group after it. -/
def Group64.push (group : Group64) (value : Nat) : List UInt8 × Group64 :=
  match group.read with
  | 0 => ([], { group with read := 1, left := value, pads := 0 })
  | 1 => ([UInt8.ofNat (group.left * 4 + value / 16)],
      { group with read := 2, left := value % 16, pads := 0 })
  | 2 => ([UInt8.ofNat (group.left * 16 + value / 4)],
      { group with read := 3, left := value % 4, pads := 0 })
  | _ => ([UInt8.ofNat (group.left * 64 + value)], { group with read := 0, left := 0, pads := 0 })

def decodeGroups (strict : Bool) : Group64 → List Char → Except Error Bytes
  | group, [] =>
      if group.read = 0 then .ok []
      else if group.read = 1 then binasciiError "Invalid base64-encoded string"
      else binasciiError "Incorrect padding"
  | group, c :: cs =>
      if c = '=' then
        if 2 ≤ group.read ∧ 4 ≤ group.read + (group.pads + 1) then
          if strict ∧ cs ≠ [] then binasciiError "Excess data after padding" else .ok []
        else if 2 ≤ group.read then
          decodeGroups strict { group with pads := group.pads + 1, padded := true } cs
        else decodeGroups strict { group with padded := true } cs
      else
        match sextet c with
        | none =>
            if strict then binasciiError "Only base64 data is allowed" else decodeGroups strict group cs
        | some value =>
            if strict ∧ group.padded = true then binasciiError "Discontinuous padding not allowed"
            else do
              let raw ← decodeGroups strict (group.push value).2 cs
              return (group.push value).1 ++ raw

/-- `base64.b64decode`; `validate` is the strict mode. -/
def b64decode (s : String) (validate : Bool) : Except Error Bytes :=
  if !isAsciiText s then .error (.valueError "string argument should contain only ASCII characters")
  else if validate ∧ s.toList.head? = some '=' then binasciiError "Leading padding not allowed"
  else decodeGroups validate {} s.toList

/-- `base64.urlsafe_b64decode`. -/
def urlsafeB64decode (s : String) : Except Error Bytes :=
  b64decode (String.ofList (s.toList.map fun
    | '-' => '+'
    | '_' => '/'
    | c => c)) false

/-- The character of the URL-safe alphabet for one of the standard alphabet. -/
def urlsafeChar (c : Char) : Char :=
  if c = '+' then '-' else if c = '/' then '_' else c

/-- `base64.urlsafe_b64encode`. -/
def urlsafeB64encode (raw : Bytes) : String :=
  String.ofList ((encodeGroups (raw.map (·.toNat))).map urlsafeChar)

def hexDigit (c : Char) : Option Nat :=
  if '0' ≤ c ∧ c ≤ '9' then some (c.toNat - '0'.toNat)
  else if 'a' ≤ c ∧ c ≤ 'f' then some (c.toNat - 'a'.toNat + 10)
  else if 'A' ≤ c ∧ c ≤ 'F' then some (c.toNat - 'A'.toNat + 10)
  else none

/-- What may stand between two bytes: not all that `strip` takes away. -/
def isHexSpace (c : Char) : Bool :=
  c = ' ' || ('\t' ≤ c && c ≤ '\r')

/-- `bytes.fromhex`. -/
def fromHex : List Char → Except Error Bytes
  | [] => .ok []
  | [c] => if isHexSpace c then .ok [] else .error (.valueError "non-hexadecimal number found")
  | c :: d :: cs =>
      if isHexSpace c then fromHex (d :: cs)
      else match hexDigit c, hexDigit d with
        | some high, some low => do return UInt8.ofNat (high * 16 + low) :: (← fromHex cs)
        | _, _ => .error (.valueError "non-hexadecimal number found")

/-! ### The round trip -/

theorem sextet_base64Char {value : Nat} (h : value < 64) :
    sextet (base64Char value) = some value ∧ base64Char value ≠ '=' ∧
      isAscii (base64Char value) = true ∧ isSpace (base64Char value) = false := by
  have hall : ∀ value : Fin 64, sextet (base64Char value) = some value.val ∧ base64Char value ≠ '=' ∧
      isAscii (base64Char value) = true ∧ isSpace (base64Char value) = false := by
    decide +kernel
  exact hall ⟨value, h⟩

/-- One character of the alphabet, before any padding. -/
theorem decodeGroups_cons (strict : Bool) {group : Group64} (hgroup : group.padded = false)
    {value : Nat} (h : value < 64) (cs : List Char) {raw : Bytes}
    (hrest : decodeGroups strict (group.push value).2 cs = .ok raw) :
    decodeGroups strict group (base64Char value :: cs) = .ok ((group.push value).1 ++ raw) := by
  obtain ⟨hsextet, hpad, -, -⟩ := sextet_base64Char h
  rw [decodeGroups, if_neg hpad, hsextet]
  dsimp only
  rw [if_neg (by simp [hgroup]), hrest]
  rfl

theorem decodeGroups_encodeGroups (strict : Bool) (raw : List Nat) (hraw : ∀ byte ∈ raw, byte < 256) :
    decodeGroups strict {} (encodeGroups raw) = .ok (raw.map UInt8.ofNat) := by
  induction raw using encodeGroups.induct with
  | case1 => rfl
  | case2 a =>
      have ha : a < 256 := hraw a (by simp)
      have hlast : decodeGroups strict ⟨2, a % 4 * 16 % 16, 0, false⟩ ['=', '='] = .ok [] := by
        simp [decodeGroups]
      have hfirst : a / 4 * 4 + a % 4 * 16 / 16 = a := by omega
      calc
        decodeGroups strict {} (encodeGroups [a]) =
            .ok ([] ++ ([UInt8.ofNat (a / 4 * 4 + a % 4 * 16 / 16)] ++ [])) :=
          decodeGroups_cons strict rfl (by omega) _
            (decodeGroups_cons strict rfl (by omega) _ hlast)
        _ = .ok ([a].map UInt8.ofNat) := by rw [hfirst]; rfl
  | case3 a b =>
      have ha : a < 256 := hraw a (by simp)
      have hb : b < 256 := hraw b (by simp)
      have hlast : decodeGroups strict ⟨3, b % 16 * 4 % 4, 0, false⟩ ['='] = .ok [] := by
        simp [decodeGroups]
      have hfirst : a / 4 * 4 + (a % 4 * 16 + b / 16) / 16 = a := by omega
      have hsecond : (a % 4 * 16 + b / 16) % 16 * 16 + b % 16 * 4 / 4 = b := by omega
      calc
        decodeGroups strict {} (encodeGroups [a, b]) =
            .ok ([] ++ ([UInt8.ofNat (a / 4 * 4 + (a % 4 * 16 + b / 16) / 16)] ++
              ([UInt8.ofNat ((a % 4 * 16 + b / 16) % 16 * 16 + b % 16 * 4 / 4)] ++ []))) :=
          decodeGroups_cons strict rfl (by omega) _
            (decodeGroups_cons strict rfl (by omega) _
              (decodeGroups_cons strict rfl (by omega) _ hlast))
        _ = .ok ([a, b].map UInt8.ofNat) := by rw [hfirst, hsecond]; rfl
  | case4 a b c raw ih =>
      have ha : a < 256 := hraw a (by simp)
      have hb : b < 256 := hraw b (by simp)
      have hc : c < 256 := hraw c (by simp)
      have hrest := ih fun byte hmem => hraw byte (by simp [hmem])
      have hfirst : a / 4 * 4 + (a % 4 * 16 + b / 16) / 16 = a := by omega
      have hsecond : (a % 4 * 16 + b / 16) % 16 * 16 + (b % 16 * 4 + c / 64) / 4 = b := by omega
      have hthird : (b % 16 * 4 + c / 64) % 4 * 64 + c % 64 = c := by omega
      calc
        decodeGroups strict {} (encodeGroups (a :: b :: c :: raw)) =
            .ok ([] ++ ([UInt8.ofNat (a / 4 * 4 + (a % 4 * 16 + b / 16) / 16)] ++
              ([UInt8.ofNat ((a % 4 * 16 + b / 16) % 16 * 16 + (b % 16 * 4 + c / 64) / 4)] ++
                ([UInt8.ofNat ((b % 16 * 4 + c / 64) % 4 * 64 + c % 64)] ++ raw.map UInt8.ofNat)))) :=
          decodeGroups_cons strict rfl (by omega) _
            (decodeGroups_cons strict rfl (by omega) _
              (decodeGroups_cons strict rfl (by omega) _
                (decodeGroups_cons strict rfl (by omega) _ hrest)))
        _ = .ok ((a :: b :: c :: raw).map UInt8.ofNat) := by rw [hfirst, hsecond, hthird]; rfl

theorem mem_encodeGroups_iff {raw : List Nat} (hraw : ∀ byte ∈ raw, byte < 256) {c : Char}
    (h : c ∈ encodeGroups raw) : c = '=' ∨ ∃ value < 64, c = base64Char value := by
  have hvalue {value : Nat} (hlt : value < 64) (hc : c = base64Char value) :
      c = '=' ∨ ∃ value < 64, c = base64Char value := .inr ⟨value, hlt, hc⟩
  induction raw using encodeGroups.induct with
  | case1 => cases h
  | case2 a =>
      have ha : a < 256 := hraw a (by simp)
      simp only [encodeGroups, List.mem_cons, List.not_mem_nil, or_false] at h
      rcases h with h | h | h | h
      · exact hvalue (by omega) h
      · exact hvalue (by omega) h
      · exact .inl h
      · exact .inl h
  | case3 a b =>
      have ha : a < 256 := hraw a (by simp)
      have hb : b < 256 := hraw b (by simp)
      simp only [encodeGroups, List.mem_cons, List.not_mem_nil, or_false] at h
      rcases h with h | h | h | h
      · exact hvalue (by omega) h
      · exact hvalue (by omega) h
      · exact hvalue (by omega) h
      · exact .inl h
  | case4 a b d raw ih =>
      have ha : a < 256 := hraw a (by simp)
      have hb : b < 256 := hraw b (by simp)
      have hd : d < 256 := hraw d (by simp)
      rw [encodeGroups] at h
      simp only [List.mem_cons] at h
      rcases h with h | h | h | h | h
      · exact hvalue (by omega) h
      · exact hvalue (by omega) h
      · exact hvalue (by omega) h
      · exact hvalue (by omega) h
      · exact ih (fun byte hmem => hraw byte (by simp [hmem])) h

theorem mem_encodeGroups {raw : List Nat} (hraw : ∀ byte ∈ raw, byte < 256) {c : Char}
    (h : c ∈ encodeGroups raw) : isAscii c = true ∧ isSpace c = false := by
  rcases mem_encodeGroups_iff hraw h with rfl | ⟨value, hlt, rfl⟩
  · decide
  · exact (sextet_base64Char hlt).2.2

theorem head_encodeGroups {raw : List Nat} (hraw : ∀ byte ∈ raw, byte < 256) :
    (encodeGroups raw).head? ≠ some '=' := by
  have hhead {a : Nat} (ha : a < 256) (cs : List Char) :
      (base64Char (a / 4) :: cs).head? ≠ some '=' := fun h =>
    (sextet_base64Char (show a / 4 < 64 by omega)).2.1 (Option.some.inj h)
  cases raw using encodeGroups.fun_cases with
  | case1 => simp [encodeGroups]
  | case2 a => exact hhead (hraw a (by simp)) _
  | case3 a b => exact hhead (hraw a (by simp)) _
  | case4 a b c raw => exact hhead (hraw a (by simp)) _

theorem byte_lt {raw : Bytes} : ∀ byte ∈ raw.map (·.toNat), byte < 256 := by
  intro byte hmem
  obtain ⟨octet, -, rfl⟩ := List.mem_map.mp hmem
  exact octet.toNat_lt

/-- What is written is read back, in both modes. -/
theorem b64decode_b64encode (raw : Bytes) (validate : Bool) :
    b64decode (b64encode raw) validate = .ok raw := by
  have hascii : isAsciiText (b64encode raw) = true := by
    rw [isAsciiText, b64encode, String.toList_ofList, List.all_eq_true]
    exact fun c hmem => (mem_encodeGroups byte_lt hmem).1
  have hbytes : (raw.map (·.toNat)).map UInt8.ofNat = raw := by
    rw [List.map_map]
    exact (List.map_congr_left fun byte _ => UInt8.ofNat_toNat).trans (List.map_id raw)
  rw [b64decode, hascii, if_neg (by simp), b64encode, String.toList_ofList,
    if_neg fun h => head_encodeGroups byte_lt h.2, decodeGroups_encodeGroups validate _ byte_lt, hbytes]

theorem strip_b64encode (raw : Bytes) : strip (b64encode raw) = b64encode raw := by
  refine strip_of_forall fun c hmem => ?_
  rw [b64encode, String.toList_ofList] at hmem
  exact (mem_encodeGroups byte_lt hmem).2

end Py
