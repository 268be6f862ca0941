import Naco.Lib.Text
import Mathlib.Data.Nat.Bitwise

/-!
# Bytes

`bytes` is a list of octets. `struct` reads and writes big-endian numbers; `bytes.decode` with
`errors="replace"` writes U+FFFD for each maximal part of a sequence that is not UTF-8.
-/

namespace Py

abbrev Bytes := List UInt8

/-- `int.from_bytes(raw, "big")`. -/
def bigEndian (raw : Bytes) : Nat :=
  raw.foldl (fun value byte => value * 256 + byte.toNat) 0

/-- `value.to_bytes(width, "big")` for a value that fits. -/
def toBigEndian : Nat → Nat → Bytes
  | 0, _ => []
  | width + 1, value => toBigEndian width (value / 256) ++ [UInt8.ofNat (value % 256)]

@[simp]
theorem bigEndian_nil : bigEndian [] = 0 :=
  rfl

theorem bigEndian_concat (raw : Bytes) (byte : UInt8) :
    bigEndian (raw ++ [byte]) = bigEndian raw * 256 + byte.toNat := by
  rw [bigEndian, List.foldl_append]
  rfl

@[simp]
theorem bigEndian_singleton (byte : UInt8) : bigEndian [byte] = byte.toNat := by
  rw [← List.nil_append [byte], bigEndian_concat, bigEndian_nil, Nat.zero_mul, Nat.zero_add]

theorem bigEndian_lt (raw : Bytes) : bigEndian raw < 256 ^ raw.length := by
  induction raw using List.reverseRecOn with
  | nil => decide
  | append_singleton raw byte ih =>
      have hbyte := byte.toNat_lt
      rw [bigEndian_concat, List.length_append, List.length_singleton, Nat.pow_succ]
      omega

@[simp]
theorem length_toBigEndian (width value : Nat) : (toBigEndian width value).length = width := by
  induction width generalizing value with
  | zero => rfl
  | succ width ih => rw [toBigEndian, List.length_append, ih, List.length_singleton]

/-- A value that fits is read back. -/
theorem bigEndian_toBigEndian {width value : Nat} (h : value < 256 ^ width) :
    bigEndian (toBigEndian width value) = value := by
  induction width generalizing value with
  | zero =>
      obtain rfl : value = 0 := by simpa using h
      rfl
  | succ width ih =>
      have hhigh : value / 256 < 256 ^ width := by
        rw [Nat.pow_succ] at h
        omega
      rw [toBigEndian, bigEndian_concat, ih hhigh, UInt8.toNat_ofNat']
      omega

/-- Bytes are the value they are read as, at their own width. -/
theorem toBigEndian_bigEndian (raw : Bytes) : toBigEndian raw.length (bigEndian raw) = raw := by
  induction raw using List.reverseRecOn with
  | nil => rfl
  | append_singleton raw byte ih =>
      have hbyte := byte.toNat_lt
      have hhigh : (bigEndian raw * 256 + byte.toNat) / 256 = bigEndian raw := by omega
      have hlow : (bigEndian raw * 256 + byte.toNat) % 256 = byte.toNat := by omega
      rw [List.length_append, List.length_singleton, toBigEndian, bigEndian_concat, hhigh, hlow, ih,
        UInt8.ofNat_toNat]

theorem toBigEndian_one (value : Nat) : toBigEndian 1 value = [UInt8.ofNat value] := by
  rw [toBigEndian, toBigEndian, List.nil_append, List.singleton_inj, ← UInt8.toNat_inj,
    UInt8.toNat_ofNat', UInt8.toNat_ofNat', Nat.mod_mod]

theorem xor_mul_add (high high' low low' : Nat) (hlow : low < 256) (hlow' : low' < 256) :
    (high * 256 + low) ^^^ (high' * 256 + low') = (high ^^^ high') * 256 + (low ^^^ low') := by
  have hdiv : ((high * 256 + low) ^^^ (high' * 256 + low')) / 2 ^ 8 = high ^^^ high' := by
    rw [Nat.xor_div_two_pow]
    congr 1 <;> omega
  have hmod : ((high * 256 + low) ^^^ (high' * 256 + low')) % 2 ^ 8 = low ^^^ low' := by
    rw [Nat.xor_mod_two_pow]
    congr 1 <;> omega
  omega

/-- The exclusive or of two numbers of the same width is taken byte by byte. -/
theorem bigEndian_xor {left right : Bytes} (h : left.length = right.length) :
    bigEndian left ^^^ bigEndian right = bigEndian (List.zipWith (· ^^^ ·) left right) := by
  induction left using List.reverseRecOn generalizing right with
  | nil =>
      obtain rfl := List.length_eq_zero_iff.mp h.symm
      rfl
  | append_singleton left byte ih =>
      rcases List.eq_nil_or_concat right with rfl | ⟨right, byte', rfl⟩
      · rw [List.length_append] at h
        exact absurd h (by simp)
      · rw [List.concat_eq_append] at h ⊢
        have hlength : left.length = right.length := by simpa using h
        rw [List.zipWith_append hlength]
        change _ = bigEndian (List.zipWith (· ^^^ ·) left right ++ [byte ^^^ byte'])
        rw [bigEndian_concat, bigEndian_concat, bigEndian_concat,
          xor_mul_add _ _ _ _ byte.toNat_lt byte'.toNat_lt, ih hlength, UInt8.toNat_xor]
/-- `f"{byte:02x}"`. -/
def hexByte (byte : Nat) : String :=
  String.ofList ([byte / 16 % 16, byte % 16].map
    fun digit => "0123456789abcdef".toList.getD digit '0')

/-! ### UTF-8 -/

/-- A sequence under way: the value so far, the bytes that are missing, and the range of the next. -/
structure Pending where
  code : Nat
  missing : Nat
  low : Nat := 0x80
  high : Nat := 0xbf
  deriving DecidableEq, Repr

def replacement : Char := '\uFFFD'

/-- The sequence that a byte starts. -/
def leadByte (byte : Nat) : Option Pending :=
  if 0xc2 ≤ byte ∧ byte ≤ 0xdf then some { code := byte - 0xc0, missing := 1 }
  else if byte = 0xe0 then some { code := 0, missing := 2, low := 0xa0 }
  else if byte = 0xed then some { code := 0xd, missing := 2, high := 0x9f }
  else if 0xe1 ≤ byte ∧ byte ≤ 0xef then some { code := byte - 0xe0, missing := 2 }
  else if byte = 0xf0 then some { code := 0, missing := 3, low := 0x90 }
  else if 0xf1 ≤ byte ∧ byte ≤ 0xf3 then some { code := byte - 0xf0, missing := 3 }
  else if byte = 0xf4 then some { code := 4, missing := 3, high := 0x8f }
  else none

/-- What the decoder does with one byte: the characters it writes, and the sequence under way then. -/
def decodeByte (pending : Option Pending) (byte : Nat) : List Char × Option Pending :=
  let fresh : List Char × Option Pending :=
    if byte < 0x80 then ([Char.ofNat byte], none)
    else match leadByte byte with
      | some next => ([], some next)
      | none => ([replacement], none)
  match pending with
  | none => fresh
  | some sequence =>
      if sequence.low ≤ byte ∧ byte ≤ sequence.high then
        let code := sequence.code * 64 + (byte - 0x80)
        if sequence.missing ≤ 1 then ([Char.ofNat code], none)
        else ([], some { code, missing := sequence.missing - 1 })
      else
        (replacement :: fresh.1, fresh.2)

def decodeFrom : Option Pending → Bytes → List Char
  | none, [] => []
  | some _, [] => [replacement]
  | pending, byte :: raw =>
      (decodeByte pending byte.toNat).1 ++ decodeFrom (decodeByte pending byte.toNat).2 raw

/-- `raw.decode("utf-8", errors="replace")`. -/
def decodeReplace (raw : Bytes) : String :=
  String.ofList (decodeFrom none raw)

end Py
