import Naco.Lib.Bytes
import Naco.Lib.Python

/-!
# UTF-8 round trips

A text that was encoded is read back. The proof follows the decoder byte by byte: a lead byte, the bytes
that are missing, and the last one, which completes the character.
-/

namespace Py

/-- Bytes that are the UTF-8 of a text. -/
def IsUtf8 (raw : Bytes) : Prop :=
  ∃ text, encode text = raw

section

variable {raw : Bytes} {byte : Nat} {next : Pending}

theorem decodeFrom_ascii (h : byte < 0x80) :
    decodeFrom none (UInt8.ofNat byte :: raw) = Char.ofNat byte :: decodeFrom none raw := by
  have hbyte : (UInt8.ofNat byte).toNat = byte := by
    rw [UInt8.toNat_ofNat']
    omega
  rw [decodeFrom, hbyte]
  simp only [decodeByte, if_pos h]
  rfl

theorem decodeFrom_lead (h : 0x80 ≤ byte) (hbyte : byte < 256) (hlead : leadByte byte = some next) :
    decodeFrom none (UInt8.ofNat byte :: raw) = decodeFrom (some next) raw := by
  have hvalue : (UInt8.ofNat byte).toNat = byte := Nat.mod_eq_of_lt hbyte
  rw [decodeFrom, hvalue]
  simp only [decodeByte, if_neg (Nat.not_lt.mpr h), hlead]
  rfl

theorem decodeFrom_last {code low high : Nat} (hlow : low ≤ byte) (hhigh : byte ≤ high)
    (hbyte : byte < 256) :
    decodeFrom (some ⟨code, 1, low, high⟩) (UInt8.ofNat byte :: raw) =
      Char.ofNat (code * 64 + (byte - 0x80)) :: decodeFrom none raw := by
  have hvalue : (UInt8.ofNat byte).toNat = byte := Nat.mod_eq_of_lt hbyte
  rw [decodeFrom, hvalue]
  simp only [decodeByte, if_pos (And.intro hlow hhigh), if_pos (le_refl 1)]
  rfl

theorem decodeFrom_more {code missing low high : Nat} (hlow : low ≤ byte) (hhigh : byte ≤ high)
    (hbyte : byte < 256) :
    decodeFrom (some ⟨code, missing + 2, low, high⟩) (UInt8.ofNat byte :: raw) =
      decodeFrom (some ⟨code * 64 + (byte - 0x80), missing + 1, 0x80, 0xbf⟩) raw := by
  have hvalue : (UInt8.ofNat byte).toNat = byte := Nat.mod_eq_of_lt hbyte
  have hmissing : ¬ missing + 2 ≤ 1 := by omega
  rw [decodeFrom, hvalue]
  simp only [decodeByte, if_pos (And.intro hlow hhigh), if_neg hmissing]
  rfl

end

/-- The sequence that the first of three bytes starts. -/
theorem leadByte_three {value : Nat} (h : 0x7ff < value) (h' : value ≤ 0xffff)
    (hscalar : value < 0xd800 ∨ 0xdfff < value) :
    ∃ low high, leadByte (value / 4096 + 0xe0) =
        some { code := value / 4096, missing := 2, low, high } ∧
      low ≤ value / 64 % 64 + 0x80 ∧ value / 64 % 64 + 0x80 ≤ high := by
  unfold leadByte
  rw [if_neg (by omega)]
  split
  · exact ⟨0xa0, 0xbf, by simp; omega, by omega, by omega⟩
  · split
    · exact ⟨0x80, 0x9f, by simp; omega, by omega, by omega⟩
    · rw [if_pos (by omega)]
      exact ⟨0x80, 0xbf, by simp, by omega, by omega⟩

/-- The sequence that the first of four bytes starts. -/
theorem leadByte_four {value : Nat} (h : 0xffff < value) (h' : value < 0x110000) :
    ∃ low high, leadByte (value / 262144 + 0xf0) =
        some { code := value / 262144, missing := 3, low, high } ∧
      low ≤ value / 4096 % 64 + 0x80 ∧ value / 4096 % 64 + 0x80 ≤ high := by
  unfold leadByte
  rw [if_neg (by omega), if_neg (by omega), if_neg (by omega), if_neg (by omega)]
  split
  · exact ⟨0x90, 0xbf, by simp; omega, by omega, by omega⟩
  · split
    · exact ⟨0x80, 0xbf, by simp, by omega, by omega⟩
    · rw [if_pos (by omega)]
      exact ⟨0x80, 0x8f, by simp; omega, by omega, by omega⟩

/-- A character is read back, whatever follows it. -/
theorem decodeFrom_utf8EncodeChar (c : Char) (raw : Bytes) :
    decodeFrom none (String.utf8EncodeChar c ++ raw) = c :: decodeFrom none raw := by
  have hscalar : c.toNat < 0xd800 ∨ 0xdfff < c.toNat ∧ c.toNat < 0x110000 := c.valid
  have hchar : Char.ofNat c.toNat = c := Char.ofNat_toNat c
  unfold String.utf8EncodeChar
  change decodeFrom none (ite (c.toNat ≤ 0x7f) [UInt8.ofNat c.toNat] (ite (c.toNat ≤ 0x7ff)
    [UInt8.ofNat (c.toNat / 64 % 32 + 0xc0), UInt8.ofNat (c.toNat % 64 + 0x80)]
    (ite (c.toNat ≤ 0xffff)
      [UInt8.ofNat (c.toNat / 4096 % 16 + 0xe0), UInt8.ofNat (c.toNat / 64 % 64 + 0x80),
        UInt8.ofNat (c.toNat % 64 + 0x80)]
      [UInt8.ofNat (c.toNat / 262144 % 8 + 0xf0), UInt8.ofNat (c.toNat / 4096 % 64 + 0x80),
        UInt8.ofNat (c.toNat / 64 % 64 + 0x80), UInt8.ofNat (c.toNat % 64 + 0x80)])) ++ raw) = _
  generalize c.toNat = value at hscalar hchar ⊢
  subst hchar
  split
  · rw [List.singleton_append, decodeFrom_ascii (by omega)]
  · split
    · have hlead : leadByte (value / 64 % 32 + 0xc0) = some ⟨value / 64, 1, 0x80, 0xbf⟩ := by
        rw [leadByte, if_pos (by omega), Nat.add_sub_cancel, Nat.mod_eq_of_lt (by omega)]
      rw [List.cons_append, List.singleton_append,
        decodeFrom_lead (by omega) (by omega) hlead,
        decodeFrom_last (by omega) (by omega) (by omega)]
      have hcode : value / 64 * 64 + (value % 64 + 0x80 - 0x80) = value := by omega
      rw [hcode]
    · split
      · rw [Nat.mod_eq_of_lt (by omega : value / 4096 < 16)]
        obtain ⟨low, high, hlead, hlow, hhigh⟩ :=
          leadByte_three (by omega) (by assumption) (by omega : value < 0xd800 ∨ 0xdfff < value)
        rw [List.cons_append, List.cons_append, List.singleton_append,
          decodeFrom_lead (by omega) (by omega) hlead,
          decodeFrom_more hlow hhigh (by omega),
          decodeFrom_last (by omega) (by omega) (by omega)]
        have hcode : (value / 4096 * 64 + (value / 64 % 64 + 0x80 - 0x80)) * 64 +
            (value % 64 + 0x80 - 0x80) = value := by omega
        rw [hcode]
      · rw [Nat.mod_eq_of_lt (by omega : value / 262144 < 8)]
        obtain ⟨low, high, hlead, hlow, hhigh⟩ :=
          leadByte_four (by omega) (by omega : value < 0x110000)
        rw [List.cons_append, List.cons_append, List.cons_append, List.singleton_append,
          decodeFrom_lead (by omega) (by omega) hlead,
          decodeFrom_more hlow hhigh (by omega),
          decodeFrom_more (by omega) (by omega) (by omega),
          decodeFrom_last (by omega) (by omega) (by omega)]
        have hcode : ((value / 262144 * 64 + (value / 4096 % 64 + 0x80 - 0x80)) * 64 +
            (value / 64 % 64 + 0x80 - 0x80)) * 64 + (value % 64 + 0x80 - 0x80) = value := by omega
        rw [hcode]

/-- A text is read back. -/
theorem decodeReplace_encode (text : String) : decodeReplace (encode text) = text := by
  have hchars (chars : List Char) :
      decodeFrom none (chars.flatMap String.utf8EncodeChar) = chars := by
    induction chars with
    | nil => rfl
    | cons c chars ih => rw [List.flatMap_cons, decodeFrom_utf8EncodeChar, ih]
  rw [decodeReplace, encode, hchars, String.ofList_toList]

theorem encode_decodeReplace {raw : Bytes} (h : IsUtf8 raw) : encode (decodeReplace raw) = raw := by
  obtain ⟨text, rfl⟩ := h
  rw [decodeReplace_encode]

/-- `raw.decode()`. -/
def decodeStrict (raw : Bytes) : Except Error String :=
  if encode (decodeReplace raw) = raw then .ok (decodeReplace raw)
  else .error (.valueError "'utf-8' codec can't decode bytes")

theorem decodeStrict_encode (text : String) : decodeStrict (encode text) = .ok text := by
  rw [decodeStrict, decodeReplace_encode, if_pos rfl]

end Py
