import Naco.Lib.Utf8
import Mathlib.Data.List.Induction

/-!
# Bytes kept in a text

A Python string is a sequence of code points, surrogates among them. With `errors="surrogateescape"`
the bytes that are not UTF-8 are kept as surrogates, and the same handler writes them back when the
text is encoded, so a text stands for its bytes.
-/

namespace Py

abbrev CodePoints := List Nat

/-- The code points of an ASCII text, or of any text without surrogates. -/
def codePoints (s : String) : CodePoints :=
  s.toList.map Char.toNat

/-- The surrogate of a byte that is not UTF-8. -/
def escapedByte (byte : UInt8) : Nat :=
  0xdc00 + byte.toNat

/-- A sequence under way, with its bytes so far. -/
structure Held where
  pending : Pending
  bytes : Bytes
  deriving DecidableEq, Repr

/-- What is written for bytes that turn out not to be UTF-8. -/
def flush : Option Held → CodePoints
  | none => []
  | some held => held.bytes.map escapedByte

/-- A byte that starts a sequence, or is one, or cannot be. -/
def startSequence (byte : UInt8) : CodePoints × Option Held :=
  if byte.toNat < 0x80 then ([byte.toNat], none)
  else match leadByte byte.toNat with
    | some pending => ([], some ⟨pending, [byte]⟩)
    | none => ([escapedByte byte], none)

/-- What the decoder does with one byte. -/
def stepEscaping (held : Option Held) (byte : UInt8) : CodePoints × Option Held :=
  match held with
  | none => startSequence byte
  | some ⟨pending, bytes⟩ =>
      if pending.low ≤ byte.toNat ∧ byte.toNat ≤ pending.high then
        let code := pending.code * 64 + (byte.toNat - 0x80)
        if pending.missing ≤ 1 then ([code], none)
        else ([], some ⟨{ code, missing := pending.missing - 1 }, bytes ++ [byte]⟩)
      else
        (bytes.map escapedByte ++ (startSequence byte).1, (startSequence byte).2)

def decodeEscapingFrom : Option Held → Bytes → CodePoints
  | held, [] => flush held
  | held, byte :: raw =>
      (stepEscaping held byte).1 ++ decodeEscapingFrom (stepEscaping held byte).2 raw

/-- `raw.decode("utf-8", errors="surrogateescape")`. -/
def decodeEscaping (raw : Bytes) : CodePoints :=
  decodeEscapingFrom none raw

/-- One code point of `encode("utf-8", "surrogateescape")`; no other surrogate can be encoded. -/
def encodePoint (point : Nat) : Option Bytes :=
  if 0xdc80 ≤ point ∧ point ≤ 0xdcff then some [UInt8.ofNat (point - 0xdc00)]
  else if 0xd800 ≤ point ∧ point ≤ 0xdfff then none
  else some (String.utf8EncodeChar (Char.ofNat point))

def encodePoints : CodePoints → Option Bytes
  | [] => some []
  | point :: text => do
      let first ← encodePoint point
      let later ← encodePoints text
      return first ++ later

/-- `text.encode("utf-8", "surrogateescape")`. -/
def encodeEscaping (text : CodePoints) : Except Error Bytes :=
  match encodePoints text with
  | some raw => .ok raw
  | none => .error (.valueError "'utf-8' codec can't encode character: surrogates not allowed")

/-- `text.encode("latin-1")`, if it can be. -/
def encodeLatin1 (text : CodePoints) : Option Bytes :=
  if text.all (· < 256) then some (text.map UInt8.ofNat) else none

/-! ### ASCII in a decoded text -/

section

variable {held : Option Held} {byte : UInt8} {raw : Bytes}

/-- An ASCII byte ends what is under way and stands for itself. -/
theorem decodeEscapingFrom_ascii (h : byte.toNat < 0x80)
    (hheld : ∀ state ∈ held, 0x80 ≤ state.pending.low) :
    decodeEscapingFrom held (byte :: raw) = flush held ++ byte.toNat :: decodeEscaping raw := by
  rw [decodeEscapingFrom]
  cases held with
  | none => simp [stepEscaping, startSequence, h, flush, decodeEscaping]
  | some state =>
      have hlow := hheld state rfl
      obtain ⟨pending, bytes⟩ := state
      dsimp only at hlow
      have hout : ¬ (pending.low ≤ byte.toNat ∧ byte.toNat ≤ pending.high) := by omega
      simp [stepEscaping, startSequence, h, hout, flush, decodeEscaping]

theorem decodeEscaping_ascii (h : byte.toNat < 0x80) :
    decodeEscaping (byte :: raw) = byte.toNat :: decodeEscaping raw := by
  rw [decodeEscaping, decodeEscapingFrom_ascii h (by simp)]
  rfl

theorem decodeEscaping_ascii_append {text : Bytes} (h : ∀ byte ∈ text, byte.toNat < 0x80) :
    decodeEscaping (text ++ raw) = text.map UInt8.toNat ++ decodeEscaping raw := by
  induction text with
  | nil => rfl
  | cons byte text ih =>
      obtain ⟨hbyte, htext⟩ := List.forall_mem_cons.mp h
      rw [List.cons_append, decodeEscaping_ascii hbyte, ih htext]
      rfl

end

/-! ### Sequences under way -/

/-- A first byte, by the number of bytes that follow it. -/
theorem leadByte_cases {byte : Nat} {pending : Pending} (h : leadByte byte = some pending) :
    (0xc2 ≤ byte ∧ byte ≤ 0xdf ∧ pending = ⟨byte - 0xc0, 1, 0x80, 0xbf⟩) ∨
    (0xe0 ≤ byte ∧ byte ≤ 0xef ∧ pending.code = byte - 0xe0 ∧ pending.missing = 2 ∧
      0x80 ≤ pending.low ∧ pending.high ≤ 0xbf ∧ (byte = 0xe0 → 0xa0 ≤ pending.low) ∧
      (byte = 0xed → pending.high ≤ 0x9f)) ∨
    (0xf0 ≤ byte ∧ byte ≤ 0xf4 ∧ pending.code = byte - 0xf0 ∧ pending.missing = 3 ∧
      0x80 ≤ pending.low ∧ pending.high ≤ 0xbf ∧ (byte = 0xf0 → 0x90 ≤ pending.low) ∧
      (byte = 0xf4 → pending.high ≤ 0x8f)) := by
  unfold leadByte at h
  split at h
  · next hbyte =>
      obtain rfl := Option.some.inj h
      exact .inl ⟨hbyte.1, hbyte.2, rfl⟩
  · split at h
    · next hbyte =>
        subst hbyte
        cases h
        exact .inr (.inl (by decide))
    · split at h
      · next hbyte =>
          subst hbyte
          cases h
          exact .inr (.inl (by decide))
      · split at h
        · next hbyte =>
            obtain rfl := Option.some.inj h
            exact .inr (.inl ⟨by omega, hbyte.2, rfl, rfl, le_refl _, le_refl _, by omega, by omega⟩)
        · split at h
          · next hbyte =>
              subst hbyte
              cases h
              exact .inr (.inr (by decide))
          · split at h
            · next hbyte =>
                obtain rfl := Option.some.inj h
                exact .inr (.inr ⟨by omega, by omega, rfl, rfl, le_refl _, le_refl _, by omega,
                  by omega⟩)
            · split at h
              · next hbyte =>
                  subst hbyte
                  cases h
                  exact .inr (.inr (by decide))
              · cases h

/-- The bytes of a sequence under way. -/
inductive Underway : Pending → Bytes → Prop where
  | lead {byte : UInt8} {pending : Pending} (h : leadByte byte.toNat = some pending) :
      Underway pending [byte]
  | more {pending : Pending} {bytes : Bytes} {byte : UInt8} (h : Underway pending bytes)
      (hlow : pending.low ≤ byte.toNat) (hhigh : byte.toNat ≤ pending.high)
      (hmissing : ¬ pending.missing ≤ 1) :
      Underway { code := pending.code * 64 + (byte.toNat - 0x80), missing := pending.missing - 1 }
        (bytes ++ [byte])

def Held.Valid (held : Held) : Prop :=
  Underway held.pending held.bytes

theorem Underway.low {pending : Pending} {bytes : Bytes} (h : Underway pending bytes) :
    0x80 ≤ pending.low := by
  cases h with
  | lead h =>
      rcases leadByte_cases h with ⟨-, -, rfl⟩ | ⟨-, -, -, -, hlow, -⟩ | ⟨-, -, -, -, hlow, -⟩
      · exact le_refl _
      · exact hlow
      · exact hlow
  | more => exact le_refl _

theorem Underway.bytes_high {pending : Pending} {bytes : Bytes} (h : Underway pending bytes) :
    ∀ byte ∈ bytes, 0x80 ≤ byte.toNat := by
  induction h with
  | lead h =>
      intro byte hbyte
      rw [List.mem_singleton.mp hbyte]
      rcases leadByte_cases h with ⟨hle, -⟩ | ⟨hle, -⟩ | ⟨hle, -⟩ <;> omega
  | more h hlow _ _ ih =>
      intro byte hbyte
      rcases List.mem_append.mp hbyte with hold | hnew
      · exact ih byte hold
      · rw [List.mem_singleton.mp hnew]
        exact h.low.trans hlow

/-- The sequences of each length that are under way, in their bytes. -/
theorem Underway.shape {pending : Pending} {bytes : Bytes} (h : Underway pending bytes) :
    (∃ first : UInt8, bytes = [first] ∧ leadByte first.toNat = some pending) ∨
    (∃ (first second : UInt8) (lead : Pending), bytes = [first, second] ∧
      leadByte first.toNat = some lead ∧ lead.low ≤ second.toNat ∧ second.toNat ≤ lead.high ∧
      2 ≤ lead.missing ∧ pending = { code := lead.code * 64 + (second.toNat - 0x80),
                                      missing := lead.missing - 1 }) ∨
    ∃ (first second third : UInt8) (lead : Pending), bytes = [first, second, third] ∧
      leadByte first.toNat = some lead ∧ lead.low ≤ second.toNat ∧ second.toNat ≤ lead.high ∧
      0x80 ≤ third.toNat ∧ third.toNat ≤ 0xbf ∧ lead.missing = 3 ∧
      pending = { code := (lead.code * 64 + (second.toNat - 0x80)) * 64 + (third.toNat - 0x80),
                  missing := 1 } := by
  have hlead : ∀ {byte : Nat} {lead : Pending}, leadByte byte = some lead → lead.missing ≤ 3 := by
    intro byte lead h
    rcases leadByte_cases h with ⟨-, -, rfl⟩ | ⟨-, -, -, hmissing, -⟩ | ⟨-, -, -, hmissing, -⟩
    · exact Nat.le_add_left 1 2
    · omega
    · omega
  induction h with
  | lead h => exact .inl ⟨_, rfl, h⟩
  | @more pending bytes byte h hlow hhigh hmissing ih =>
      rcases ih with ⟨first, rfl, hfirst⟩ | ⟨first, second, lead, rfl, hfirst, hsecond, hsecond',
        hmore, rfl⟩ | ⟨_, _, _, _, -, -, -, -, -, -, -, rfl⟩
      · exact .inr (.inl ⟨first, byte, pending, rfl, hfirst, hlow, hhigh, by omega, rfl⟩)
      · have hthree := hlead hfirst
        dsimp only at hlow hhigh hmissing
        refine .inr (.inr ⟨first, second, byte, lead, rfl, hfirst, hsecond, hsecond', hlow, hhigh,
          by omega, ?_⟩)
        rw [Pending.mk.injEq]
        exact ⟨rfl, by dsimp only; omega, rfl, rfl⟩
      · exact absurd (le_refl 1) hmissing

/-- What UTF-8 makes of a number that is no surrogate. -/
theorem encodePoint_eq {value : Nat} (h : value < 0xd800 ∨ 0xdfff < value ∧ value < 0x110000) :
    encodePoint value = some (
      if value ≤ 0x7f then [UInt8.ofNat value]
      else if value ≤ 0x7ff then [UInt8.ofNat (value / 64 % 32 + 0xc0), UInt8.ofNat (value % 64 + 0x80)]
      else if value ≤ 0xffff then
        [UInt8.ofNat (value / 4096 % 16 + 0xe0), UInt8.ofNat (value / 64 % 64 + 0x80),
          UInt8.ofNat (value % 64 + 0x80)]
      else
        [UInt8.ofNat (value / 262144 % 8 + 0xf0), UInt8.ofNat (value / 4096 % 64 + 0x80),
          UInt8.ofNat (value / 64 % 64 + 0x80), UInt8.ofNat (value % 64 + 0x80)]) := by
  have hvalue : (Char.ofNat value).toNat = value := by
    rw [Char.ofNat, dif_pos h]
    rfl
  rw [encodePoint, if_neg (by omega), if_neg (by omega)]
  congr 1
  unfold String.utf8EncodeChar
  simp only [Char.toNat] at hvalue
  simp only [hvalue]

theorem ofNat_eq_of_toNat {byte : UInt8} {value : Nat} (h : value = byte.toNat) :
    UInt8.ofNat value = byte := by
  rw [h, UInt8.ofNat_toNat]

/-- A sequence that is complete is what UTF-8 makes of its number. -/
theorem encodePoint_complete {pending : Pending} {bytes : Bytes} {byte : UInt8}
    (h : Underway pending bytes) (hlow : pending.low ≤ byte.toNat) (hhigh : byte.toNat ≤ pending.high)
    (hmissing : pending.missing ≤ 1) :
    0x80 ≤ pending.code * 64 + (byte.toNat - 0x80) ∧
      encodePoint (pending.code * 64 + (byte.toNat - 0x80)) = some (bytes ++ [byte]) := by
  rcases h.shape with ⟨first, rfl, hfirst⟩ | ⟨first, second, lead, rfl, hfirst, hsecond, hsecond',
      hmore, rfl⟩ | ⟨first, second, third, lead, rfl, hfirst, hsecond, hsecond', hthird, hthird',
      hthree, rfl⟩
  · rcases leadByte_cases hfirst with ⟨hle, hge, rfl⟩ | ⟨-, -, -, hmany, -⟩ | ⟨-, -, -, hmany, -⟩
    · dsimp only at hlow hhigh ⊢
      refine ⟨by omega, ?_⟩
      rw [encodePoint_eq (by omega), if_neg (by omega), if_pos (by omega)]
      congr 1
      exact List.cons_eq_cons.mpr ⟨ofNat_eq_of_toNat (by omega),
        List.cons_eq_cons.mpr ⟨ofNat_eq_of_toNat (by omega), rfl⟩⟩
    · omega
    · omega
  · dsimp only at hlow hhigh hmissing ⊢
    rcases leadByte_cases hfirst with ⟨-, -, rfl⟩ | ⟨hle, hge, hcode, -, hlead, hlead', he0, hed⟩ |
      ⟨-, -, -, hmany, -⟩
    · exact absurd hmore (Nat.not_succ_le_self 1)
    · rw [hcode]
      refine ⟨by omega, ?_⟩
      rw [encodePoint_eq (by omega), if_neg (by omega), if_neg (by omega), if_pos (by omega)]
      congr 1
      exact List.cons_eq_cons.mpr ⟨ofNat_eq_of_toNat (by omega),
        List.cons_eq_cons.mpr ⟨ofNat_eq_of_toNat (by omega),
          List.cons_eq_cons.mpr ⟨ofNat_eq_of_toNat (by omega), rfl⟩⟩⟩
    · omega
  · dsimp only at hlow hhigh hmissing ⊢
    rcases leadByte_cases hfirst with ⟨-, -, rfl⟩ | ⟨-, -, -, htwo, -⟩ |
      ⟨hle, hge, hcode, -, hlead, hlead', hf0, hf4⟩
    · cases hthree
    · omega
    · rw [hcode]
      refine ⟨by omega, ?_⟩
      rw [encodePoint_eq (by omega), if_neg (by omega), if_neg (by omega), if_neg (by omega)]
      congr 1
      exact List.cons_eq_cons.mpr ⟨ofNat_eq_of_toNat (by omega),
        List.cons_eq_cons.mpr ⟨ofNat_eq_of_toNat (by omega),
          List.cons_eq_cons.mpr ⟨ofNat_eq_of_toNat (by omega),
            List.cons_eq_cons.mpr ⟨ofNat_eq_of_toNat (by omega), rfl⟩⟩⟩⟩

/-! ### A decoded text stands for its bytes -/

def heldBytes : Option Held → Bytes
  | none => []
  | some held => held.bytes

theorem encodePoints_append {left right : CodePoints} {raw later : Bytes}
    (hleft : encodePoints left = some raw) (hright : encodePoints right = some later) :
    encodePoints (left ++ right) = some (raw ++ later) := by
  induction left generalizing raw with
  | nil =>
      obtain rfl := Option.some.inj hleft
      exact hright
  | cons point left ih =>
      simp only [encodePoints, Option.bind_eq_bind, Option.bind_eq_some_iff] at hleft
      obtain ⟨first, hfirst, rest, hrest, h⟩ := hleft
      obtain rfl := Option.some.inj h
      simp only [List.cons_append, encodePoints, hfirst, ih hrest, Option.bind_eq_bind, Option.bind_some,
        List.append_assoc]
      rfl

theorem encodePoint_escapedByte {byte : UInt8} (h : 0x80 ≤ byte.toNat) :
    encodePoint (escapedByte byte) = some [byte] := by
  have hbyte := byte.toNat_lt
  rw [encodePoint, escapedByte, if_pos (by omega), Nat.add_sub_cancel_left, UInt8.ofNat_toNat]

theorem le_escapedByte (byte : UInt8) : 0x80 ≤ escapedByte byte :=
  Nat.le_add_right_of_le (by decide)

theorem encodePoints_singleton {point : Nat} {raw : Bytes} (h : encodePoint point = some raw) :
    encodePoints [point] = some raw := by
  simp [encodePoints, h]

theorem encodePoints_escaped {bytes : Bytes} (h : ∀ byte ∈ bytes, 0x80 ≤ byte.toNat) :
    encodePoints (bytes.map escapedByte) = some bytes := by
  induction bytes with
  | nil => rfl
  | cons byte bytes ih =>
      obtain ⟨hbyte, hbytes⟩ := List.forall_mem_cons.mp h
      exact encodePoints_append (encodePoints_singleton (encodePoint_escapedByte hbyte)) (ih hbytes)

theorem encodePoints_flush {held : Option Held} (h : ∀ state ∈ held, state.Valid) :
    encodePoints (flush held) = some (heldBytes held) := by
  cases held with
  | none => rfl
  | some state => exact encodePoints_escaped (h state rfl).bytes_high

/-- What a byte writes and what it leaves under way are the bytes so far; a byte from 0x80 up writes
no ASCII. -/
structure Steps (held : Option Held) (byte : UInt8) (out : CodePoints) (next : Option Held) : Prop where
  valid : ∀ state ∈ next, state.Valid
  bytes : ∃ raw, encodePoints out = some raw ∧ raw ++ heldBytes next = heldBytes held ++ [byte]
  high : 0x80 ≤ byte.toNat → ∀ point ∈ out, 0x80 ≤ point

theorem steps_startSequence (byte : UInt8) :
    Steps none byte (startSequence byte).1 (startSequence byte).2 := by
  unfold startSequence
  split
  · next hascii =>
      refine ⟨by simp, ⟨[byte], encodePoints_singleton ?_, rfl⟩, fun hhigh => by omega⟩
      rw [encodePoint_eq (by omega), if_pos (by omega), UInt8.ofNat_toNat]
  · next hhigh =>
      split
      · next pending hlead =>
          refine ⟨?_, ⟨[], rfl, rfl⟩, by simp⟩
          rintro state ⟨⟩
          exact .lead hlead
      · refine ⟨by simp, ⟨[byte], ?_, rfl⟩, fun _ point hpoint => ?_⟩
        · exact encodePoints_singleton (encodePoint_escapedByte (by omega))
        · rw [List.mem_singleton.mp hpoint]
          exact le_escapedByte byte

theorem steps_stepEscaping {held : Option Held} (h : ∀ state ∈ held, state.Valid) (byte : UInt8) :
    Steps held byte (stepEscaping held byte).1 (stepEscaping held byte).2 := by
  cases held with
  | none => exact steps_startSequence byte
  | some state =>
      have hstate : Underway state.pending state.bytes := h state rfl
      obtain ⟨pending, bytes⟩ := state
      dsimp only at hstate
      by_cases hrange : pending.low ≤ byte.toNat ∧ byte.toNat ≤ pending.high
      · by_cases hmissing : pending.missing ≤ 1
        · obtain ⟨hhigh, hencode⟩ := encodePoint_complete hstate hrange.1 hrange.2 hmissing
          simp only [stepEscaping, if_pos hrange, if_pos hmissing]
          refine ⟨by simp, ⟨_, encodePoints_singleton hencode, List.append_nil _⟩, fun _ point hpoint => ?_⟩
          rw [List.mem_singleton.mp hpoint]
          exact hhigh
        · simp only [stepEscaping, if_pos hrange, if_neg hmissing]
          refine ⟨?_, ⟨[], rfl, rfl⟩, by simp⟩
          intro state hnext
          rw [← Option.mem_some_iff.mp hnext]
          exact hstate.more hrange.1 hrange.2 hmissing
      · have hstart := steps_startSequence byte
        obtain ⟨raw, hraw, hbytes⟩ := hstart.bytes
        simp only [stepEscaping, if_neg hrange]
        refine ⟨hstart.valid, ⟨bytes ++ raw, encodePoints_append (encodePoints_escaped hstate.bytes_high)
          hraw, ?_⟩, fun hhigh point hpoint => ?_⟩
        · rw [List.append_assoc, hbytes]
          rfl
        · rcases List.mem_append.mp hpoint with hold | hnew
          · obtain ⟨old, -, rfl⟩ := List.mem_map.mp hold
            exact le_escapedByte old
          · exact hstart.high hhigh point hnew

theorem encodePoints_decodeEscapingFrom {held : Option Held} (h : ∀ state ∈ held, state.Valid)
    (raw : Bytes) : encodePoints (decodeEscapingFrom held raw) = some (heldBytes held ++ raw) := by
  induction raw generalizing held with
  | nil => rw [decodeEscapingFrom, List.append_nil, encodePoints_flush h]
  | cons byte raw ih =>
      have hstep := steps_stepEscaping h byte
      obtain ⟨first, hfirst, hbytes⟩ := hstep.bytes
      rw [decodeEscapingFrom, encodePoints_append hfirst (ih hstep.valid), ← List.append_assoc, hbytes,
        List.append_assoc]
      rfl

/-- The bytes of a decoded text are read back. -/
theorem encodeEscaping_decodeEscaping (raw : Bytes) : encodeEscaping (decodeEscaping raw) = .ok raw := by
  have h : encodePoints (decodeEscaping raw) = some raw :=
    encodePoints_decodeEscapingFrom (by simp) raw
  rw [encodeEscaping, h]

theorem decodeEscaping_injective : Function.Injective decodeEscaping := by
  intro left right h
  have := encodeEscaping_decodeEscaping left
  rw [h, encodeEscaping_decodeEscaping right] at this
  exact (Except.ok.inj this).symm

/-- Bytes as the characters up to U+00FF are encoded back. -/
theorem encodeLatin1_map_toNat (raw : Bytes) : encodeLatin1 (raw.map UInt8.toNat) = some raw := by
  have hall : (raw.map UInt8.toNat).all (· < 256) = true := by
    simpa using fun byte _ => byte.toNat_lt
  have hsame : UInt8.ofNat ∘ UInt8.toNat = id := funext fun _ => UInt8.ofNat_toNat
  rw [encodeLatin1, if_pos hall, List.map_map, hsame, List.map_id]

end Py
