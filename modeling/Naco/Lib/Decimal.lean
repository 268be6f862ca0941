import Naco.Lib.IpText
import Mathlib.Data.Nat.Log
import Mathlib.Data.Rat.Cast.Defs
import Mathlib.Algebra.Order.Field.Power
import Mathlib.Tactic.Ring

/-!
# Decimal numbers

`format(value, "g")` of a whole number, and the reading of a decimal number with a point and an exponent.
The text has six significant digits: what it says is the number itself if and only if six digits and zeros
write it.
-/

namespace Py

open IpAddress (decimal)

/-! ### Writing -/

/-- How many units a number is, to the nearest and to the even one of two. -/
def roundHalfEven (n unit : Nat) : Nat :=
  if unit < 2 * (n % unit) ∨ 2 * (n % unit) = unit ∧ n / unit % 2 = 1 then n / unit + 1
  else n / unit

/-- A number of seven digits or more to six of them, and the places that follow these. -/
def sixDigits (n : Nat) : Nat × Nat :=
  let places := Nat.log 10 n - 5
  let digits := roundHalfEven n (10 ^ places)
  if digits = 10 ^ 6 then (10 ^ 5, places + 1) else (digits, places)

/-- The digits without the zeros at their end. -/
def dropZeros (digits : List Char) : List Char :=
  (digits.reverse.dropWhile (· = '0')).reverse

/-- An exponent has two digits at least. -/
def twoDigits (n : Nat) : String :=
  if n < 10 then "0" ++ toString n else toString n

/-- `format(n, "g")`, for a whole number that is not negative. -/
def formatNat (n : Nat) : String :=
  if n < 10 ^ 6 then toString n
  else
    let digits := (toString (sixDigits n).1 : String).toList
    let fraction := dropZeros digits.tail
    let mantissa := String.ofList (digits.take 1) ++
      if fraction = [] then "" else "." ++ String.ofList fraction
    mantissa ++ "e" ++ ("+" ++ twoDigits ((sixDigits n).2 + 5))

/-- `format(value, "g")`, for a whole number. -/
def formatG (value : ℤ) : String :=
  if value < 0 then "-" ++ formatNat value.natAbs else formatNat value.natAbs

/-! ### Reading -/

/-- The digits of a number, and how many of them follow the point. -/
def readMantissa (s : String) : Option (Nat × Nat) :=
  match partition '.' s with
  | (whole, none) => (decimal whole.toList).map fun digits => (digits, 0)
  | (whole, some fraction) =>
      (decimal (whole.toList ++ fraction.toList)).map fun digits => (digits, fraction.toList.length)

def readExponent (s : String) : Option ℤ :=
  match s.toList with
  | '+' :: digits => (decimal digits).map Int.ofNat
  | '-' :: digits => (decimal digits).map fun exponent => -Int.ofNat exponent
  | digits => (decimal digits).map Int.ofNat

def readUnsigned (s : String) : Option ℚ :=
  match partition 'e' s with
  | (mantissa, none) => (readMantissa mantissa).map fun (digits, places) => digits * 10 ^ (-(places : ℤ))
  | (mantissa, some exponent) => do
      let (digits, places) ← readMantissa mantissa
      let exponent ← readExponent exponent
      some (digits * 10 ^ (exponent - places))

/-- The number that a decimal text denotes. -/
def readDecimal (s : String) : Option ℚ :=
  match s.toList with
  | '-' :: rest => (readUnsigned (String.ofList rest)).map fun value => -value
  | _ => readUnsigned s

/-! ### Six digits -/

theorem roundHalfEven_mul_eq_iff {n unit : Nat} (hunit : 0 < unit) :
    roundHalfEven n unit * unit = n ↔ unit ∣ n := by
  have hsplit := Nat.div_add_mod n unit
  have hless := Nat.mod_lt n hunit
  have hcomm := Nat.mul_comm unit (n / unit)
  rw [Nat.dvd_iff_mod_eq_zero, roundHalfEven]
  split
  · next hup =>
      rw [Nat.succ_mul]
      constructor <;> intro h <;> omega
  · constructor <;> intro h <;> omega

theorem roundHalfEven_bounds {n unit low high : Nat} (hunit : 0 < unit) (hlow : low * unit ≤ n)
    (hhigh : n < high * unit) : low ≤ roundHalfEven n unit ∧ roundHalfEven n unit ≤ high := by
  have hle : low ≤ n / unit := (Nat.le_div_iff_mul_le hunit).mpr hlow
  have hlt : n / unit < high := (Nat.div_lt_iff_lt_mul hunit).mpr hhigh
  rw [roundHalfEven]
  split <;> omega

/-- Six digits, of which the first is not zero. -/
theorem sixDigits_bounds {n : Nat} (h : 10 ^ 6 ≤ n) :
    10 ^ 5 ≤ (sixDigits n).1 ∧ (sixDigits n).1 < 10 ^ 6 := by
  have hlog : 6 ≤ Nat.log 10 n := Nat.le_log_of_pow_le (by decide) h
  have hlow : 10 ^ 5 * 10 ^ (Nat.log 10 n - 5) ≤ n := by
    rw [← pow_add, Nat.add_sub_cancel' (by omega)]
    exact Nat.pow_log_le_self 10 (by omega)
  have hhigh : n < 10 ^ 6 * 10 ^ (Nat.log 10 n - 5) := by
    rw [← pow_add, show 6 + (Nat.log 10 n - 5) = (Nat.log 10 n).succ by omega]
    exact Nat.lt_pow_succ_log_self (by decide) n
  obtain ⟨hge, hle⟩ := roundHalfEven_bounds (Nat.pow_pos (by decide)) hlow hhigh
  rw [sixDigits]
  split <;> omega

/-- The number that six digits make of `n`. -/
def sixSignificant (n : Nat) : Nat :=
  if n < 10 ^ 6 then n else (sixDigits n).1 * 10 ^ (sixDigits n).2

/-- Six digits and zeros write the number. -/
def SixDigits (n : Nat) : Prop :=
  ∃ digits zeros, digits < 10 ^ 6 ∧ n = digits * 10 ^ zeros

theorem sixDigits_value (n : Nat) : (sixDigits n).1 * 10 ^ (sixDigits n).2 =
    roundHalfEven n (10 ^ (Nat.log 10 n - 5)) * 10 ^ (Nat.log 10 n - 5) := by
  rw [sixDigits]
  split
  · next hup =>
      rw [hup, pow_succ]
      ring
  · rfl

/-- Six digits say the number itself if and only if they and zeros write it. -/
theorem sixSignificant_eq_iff (n : Nat) : sixSignificant n = n ↔ SixDigits n := by
  rw [sixSignificant]
  split
  · next hsmall => exact iff_of_true rfl ⟨n, 0, hsmall, (Nat.mul_one n).symm⟩
  · next hlarge =>
      have hlog : 6 ≤ Nat.log 10 n := Nat.le_log_of_pow_le (by decide) (Nat.not_lt.mp hlarge)
      have hpos : 0 < 10 ^ (Nat.log 10 n - 5) := Nat.pow_pos (by decide)
      rw [sixDigits_value, roundHalfEven_mul_eq_iff hpos]
      constructor
      · rintro ⟨digits, hdigits⟩
        refine ⟨digits, Nat.log 10 n - 5, ?_, hdigits.trans (Nat.mul_comm _ _)⟩
        have hhigh : n < 10 ^ (Nat.log 10 n - 5) * 10 ^ 6 := by
          rw [← pow_add, show Nat.log 10 n - 5 + 6 = (Nat.log 10 n).succ by omega]
          exact Nat.lt_pow_succ_log_self (by decide) n
        exact (Nat.mul_lt_mul_left hpos).mp (hdigits.symm.trans_lt hhigh)
      · rintro ⟨digits, zeros, hless, hn⟩
        rcases Nat.le_total (Nat.log 10 n - 5) zeros with hle | hlt
        · exact (pow_dvd_pow 10 hle).trans ⟨digits, hn.trans (Nat.mul_comm _ _)⟩
        · -- with fewer zeros the number would have fewer digits
          rcases Nat.eq_or_lt_of_le hlt with heq | hlt
          · exact ⟨digits, by rw [← heq, Nat.mul_comm]; exact hn⟩
          · have hlow := Nat.pow_log_le_self 10 (by omega : n ≠ 0)
            have hfew : n < 10 ^ 6 * 10 ^ zeros := by
              rw [hn]
              exact Nat.mul_lt_mul_of_pos_right hless (Nat.pow_pos (by decide))
            rw [← pow_add] at hfew
            have hpow : 10 ^ (6 + zeros) ≤ 10 ^ Nat.log 10 n :=
              Nat.pow_le_pow_right (by decide) (by omega)
            omega

/-- A number of seven digits or more that does not end in a zero needs them all. -/
theorem not_sixDigits {n : Nat} (hlarge : 10 ^ 6 ≤ n) (hlast : n % 10 ≠ 0) : ¬ SixDigits n := by
  rintro ⟨digits, zeros, hless, rfl⟩
  cases zeros with
  | zero =>
      rw [pow_zero, Nat.mul_one] at hlarge
      exact absurd hlarge (Nat.not_le.mpr hless)
  | succ zeros =>
      refine hlast ?_
      rw [pow_succ, ← Nat.mul_assoc]
      exact Nat.mul_mod_left _ _

/-! ### What the text says -/

theorem dropZeros_append (digits : List Char) :
    ∃ zeros, digits = dropZeros digits ++ List.replicate zeros '0' := by
  refine ⟨(digits.reverse.takeWhile (· = '0')).length, ?_⟩
  have hzeros : digits.reverse.takeWhile (· = '0') =
      List.replicate (digits.reverse.takeWhile (· = '0')).length '0' := by
    refine List.eq_replicate_of_mem fun c hc => ?_
    simpa using List.mem_takeWhile_imp hc
  rw [← List.reverse_inj, dropZeros, List.reverse_append, List.reverse_reverse, List.reverse_replicate,
    ← hzeros, List.takeWhile_append_dropWhile]

theorem foldl_zeros (zeros value : Nat) :
    (List.replicate zeros '0').foldl (fun value c => value * 10 + (c.toNat - '0'.toNat)) value =
      value * 10 ^ zeros := by
  induction zeros generalizing value with
  | zero => rw [List.replicate_zero, List.foldl_nil, pow_zero, Nat.mul_one]
  | succ zeros ih =>
      rw [List.replicate_succ, List.foldl_cons, ih, pow_succ', Nat.sub_self, Nat.add_zero, Nat.mul_assoc]

/-- Zeros at the end of a number are powers of ten. -/
theorem decimal_append_zeros {digits : List Char} {zeros value : Nat} (hne : digits ≠ [])
    (h : decimal (digits ++ List.replicate zeros '0') = some value) :
    ∃ small, decimal digits = some small ∧ small * 10 ^ zeros = value := by
  rw [decimal] at h
  split at h
  · next hdigits =>
      rw [List.foldl_append, foldl_zeros] at h
      refine ⟨_, ?_, Option.some_inj.mp h⟩
      rw [decimal, if_pos]
      refine ⟨hne, List.all_eq_true.mpr fun c hc => ?_⟩
      exact List.all_eq_true.mp hdigits.2 c (List.mem_append_left _ hc)
  · cases h

theorem length_toString {n : Nat} (hlow : 10 ^ 5 ≤ n) (hhigh : n < 10 ^ 6) :
    (toString n : String).toList.length = 6 := by
  rw [Nat.toString_eq_ofList_toDigits, String.toList_ofList]
  have hle := (Nat.length_toDigits_le_iff (by decide) (by decide)).mpr hhigh
  have hge := mt (Nat.length_toDigits_le_iff (by decide) (by decide : 0 < 5)).mp (Nat.not_lt.mpr hlow)
  omega

theorem decimal_cons_zero {digits : List Char} {value : Nat} (h : decimal digits = some value) :
    decimal ('0' :: digits) = some value := by
  unfold decimal at h ⊢
  split at h
  · next hdigits =>
      rw [if_pos ⟨List.cons_ne_nil _ _, by rw [List.all_cons, hdigits.2]; rfl⟩]
      exact h
  · cases h

theorem decimal_twoDigits (n : Nat) : decimal (twoDigits n).toList = some n := by
  rw [twoDigits]
  split
  · rw [String.toList_append]
    exact decimal_cons_zero (IpAddress.decimal_toString n)
  · exact IpAddress.decimal_toString n

theorem readExponent_plus (n : Nat) : readExponent ("+" ++ twoDigits n) = some (n : ℤ) := by
  have hlist : ("+" ++ twoDigits n).toList = '+' :: (twoDigits n).toList := String.toList_append
  rw [readExponent, hlist]
  change (decimal (twoDigits n).toList).map Int.ofNat = _
  rw [decimal_twoDigits]
  rfl

theorem readUnsigned_toString (n : Nat) : readUnsigned (toString n) = some (n : ℚ) := by
  have hplain {c : Char} (hc : c.isDigit = false) : c ∉ (toString n : String).toList := by
    intro hmem
    rw [IpAddress.isDigit_toString hmem] at hc
    cases hc
  rw [readUnsigned, partition_of_not_mem (hplain (by decide))]
  dsimp only
  rw [readMantissa, partition_of_not_mem (hplain (by decide))]
  dsimp only
  rw [IpAddress.decimal_toString, Option.map_some, Option.map_some]
  congr 1
  simp

/-- Digits with a point after the first, or the first alone. -/
theorem readMantissa_append {first fraction : List Char} {digits : Nat}
    (h : decimal (first ++ fraction) = some digits) :
    readMantissa (String.ofList first ++ if fraction = [] then "" else "." ++ String.ofList fraction) =
      some (digits, fraction.length) := by
  have hpoint : '.' ∉ (String.ofList first).toList := by
    intro hmem
    rw [String.toList_ofList] at hmem
    exact absurd (IpAddress.isDigit_of_decimal h '.' (List.mem_append_left _ hmem)) (by decide)
  split
  · next hnone =>
      subst hnone
      rw [String.append_empty, readMantissa, partition_of_not_mem hpoint]
      dsimp only
      rw [List.append_nil] at h
      rw [String.toList_ofList, h]
      rfl
  · have hsplit := @partition_append '.' (String.ofList first) (String.ofList fraction) hpoint
    rw [String.append_assoc] at hsplit
    rw [readMantissa]
    change (match partition '.' (String.ofList first ++ (String.ofList ['.'] ++ String.ofList fraction)) with
      | (whole, none) => _
      | (whole, some fraction) => _) = _
    rw [hsplit]
    dsimp only
    rw [String.toList_ofList, String.toList_ofList, h]
    rfl

theorem readUnsigned_formatNat (n : Nat) : readUnsigned (formatNat n) = some (sixSignificant n : ℚ) := by
  rw [formatNat, sixSignificant]
  split
  · exact readUnsigned_toString n
  · next hlarge =>
      obtain ⟨hlow, hhigh⟩ := sixDigits_bounds (Nat.not_lt.mp hlarge)
      have hvalue := IpAddress.decimal_toString (sixDigits n).1
      have hlength := length_toString hlow hhigh
      dsimp only
      generalize (toString (sixDigits n).1 : String).toList = digits at hvalue hlength ⊢
      obtain ⟨zeros, hzeros⟩ := dropZeros_append digits.tail
      have hdigits : digits = (digits.take 1 ++ dropZeros digits.tail) ++ List.replicate zeros '0' := by
        rw [List.append_assoc, ← hzeros, ← List.drop_one, List.take_append_drop]
      have hfirst : digits.take 1 ++ dropZeros digits.tail ≠ [] := by
        intro hnil
        have htake := congrArg List.length (List.append_eq_nil_iff.mp hnil).1
        rw [List.length_take, hlength] at htake
        exact absurd htake (by decide)
      rw [hdigits] at hvalue
      obtain ⟨small, hsmall, hpower⟩ := decimal_append_zeros hfirst hvalue
      have hplaces : (dropZeros digits.tail).length + zeros = 5 := by
        have htail := congrArg List.length hzeros
        rw [List.length_append, List.length_replicate, List.length_tail, hlength] at htail
        omega
      have hmantissa := readMantissa_append hsmall
      have he : 'e' ∉ (String.ofList (digits.take 1) ++ if dropZeros digits.tail = [] then "" else
          "." ++ String.ofList (dropZeros digits.tail)).toList := by
        have hletter : 'e' ∉ digits.take 1 ++ dropZeros digits.tail := fun hmem =>
          absurd (IpAddress.isDigit_of_decimal hsmall 'e' hmem) (by decide)
        rw [List.mem_append, not_or] at hletter
        rw [String.toList_append, List.mem_append, String.toList_ofList, not_or]
        refine ⟨hletter.1, ?_⟩
        split
        · exact List.not_mem_nil
        · rw [String.toList_append, List.mem_append, String.toList_ofList, not_or]
          exact ⟨by decide, by rw [String.toList_ofList]; exact hletter.2⟩
      have hsplit := @partition_append 'e' _ ("+" ++ twoDigits ((sixDigits n).2 + 5)) he
      have hletter : "e" = String.ofList ['e'] := rfl
      rw [readUnsigned, hletter, hsplit]
      dsimp only
      rw [hmantissa, readExponent_plus]
      refine congrArg some ?_
      have hexponent : ((((sixDigits n).2 + 5 : Nat) : ℤ) - ((dropZeros digits.tail).length : ℤ)) =
          (((sixDigits n).2 + zeros : Nat) : ℤ) := by
        omega
      dsimp only
      rw [hexponent, zpow_natCast, ← hpower]
      push_cast
      ring

/-! ### Whole numbers -/

theorem head_formatNat (n : Nat) : ∀ rest, (formatNat n).toList ≠ '-' :: rest := by
  intro rest h
  have hsign {n : Nat} (hmem : '-' ∈ (toString n : String).toList) : False := by
    have hdigit := IpAddress.isDigit_toString hmem
    revert hdigit
    decide
  rw [formatNat] at h
  split at h
  · exact hsign (h ▸ List.mem_cons_self)
  · next hlarge =>
      obtain ⟨hlow, hhigh⟩ := sixDigits_bounds (Nat.not_lt.mp hlarge)
      have hlength := length_toString hlow hhigh
      have hmem := @hsign (sixDigits n).1
      dsimp only at h
      generalize (toString (sixDigits n).1 : String).toList = digits at h hlength hmem
      cases digits with
      | nil => cases hlength
      | cons first digits =>
          simp only [String.toList_append, String.toList_ofList, List.take_succ_cons, List.cons_append] at h
          exact hmem ((List.cons.inj h).1 ▸ List.mem_cons_self)

/-- The text of a whole number denotes its six significant digits. -/
theorem readDecimal_formatG (value : ℤ) : readDecimal (formatG value) =
    some ((if value < 0 then -1 else 1) * (sixSignificant value.natAbs : ℚ)) := by
  rw [formatG]
  split
  · have hlist : ("-" ++ formatNat value.natAbs).toList = '-' :: (formatNat value.natAbs).toList :=
      String.toList_append
    rw [readDecimal, hlist]
    change (readUnsigned (String.ofList (formatNat value.natAbs).toList)).map (fun value => -value) = _
    rw [String.ofList_toList, readUnsigned_formatNat, Option.map_some, neg_one_mul]
  · rw [one_mul, ← readUnsigned_formatNat]
    unfold readDecimal
    split
    · next rest hlist => exact absurd hlist (head_formatNat _ rest)
    · rfl

/-- The text of a whole number denotes that number if and only if six digits and zeros write it. -/
theorem readDecimal_formatG_iff (value : ℤ) :
    readDecimal (formatG value) = some (value : ℚ) ↔ SixDigits value.natAbs := by
  have hvalue : (value : ℚ) = (if value < 0 then -1 else 1) * (value.natAbs : ℚ) := by
    rw [Nat.cast_natAbs]
    split
    · next hneg => rw [abs_of_neg hneg, Int.cast_neg, neg_one_mul, neg_neg]
    · next hpos => rw [abs_of_nonneg (not_lt.mp hpos), one_mul]
  have hsign : (if value < 0 then -1 else 1 : ℚ) ≠ 0 := by split <;> norm_num
  rw [readDecimal_formatG, ← sixSignificant_eq_iff, hvalue, Option.some_inj, mul_right_inj' hsign,
    Nat.cast_inj]

end Py
