import Naco.Netutils

/-!
# The normal form of a MAC address

What `normalizeMac` returns is six pairs of lower-case hex digits between colons, which it accepts and
keeps as it is.
-/

namespace Naco

open Py

theorem toNat_lt_of_isHexDigit {c : Char} (h : isHexDigit c = true) : c.toNat < 103 := by
  simp only [isHexDigit, IpAddress.hexValue] at h
  have hrange : ('0' ≤ c ∧ c ≤ '9') ∨ ('a' ≤ c ∧ c ≤ 'f') ∨ ('A' ≤ c ∧ c ≤ 'F') := by
    by_contra hnot
    rw [not_or, not_or] at hnot
    simp [hnot] at h
  simp only [Char.le_def, UInt32.le_iff_toNat_le] at hrange
  change (48 ≤ c.toNat ∧ c.toNat ≤ 57) ∨ (97 ≤ c.toNat ∧ c.toNat ≤ 102) ∨
    (65 ≤ c.toNat ∧ c.toNat ≤ 70) at hrange
  omega

/-- The digits of the normal form. -/
def IsLowerHex (c : Char) : Prop :=
  isHexDigit c = true ∧ c.toLower = c ∧ isSpace c = false

theorem isLowerHex_toLower {c : Char} (h : isHexDigit c = true) : IsLowerHex c.toLower := by
  have hall : ∀ n < 103, isHexDigit (Char.ofNat n) = true →
      isHexDigit (Char.ofNat n).toLower = true ∧
        (Char.ofNat n).toLower.toLower = (Char.ofNat n).toLower ∧
        isSpace (Char.ofNat n).toLower = false := by
    decide
  have hc := hall c.toNat (toNat_lt_of_isHexDigit h)
  rw [Char.ofNat_toNat] at hc
  exact hc h

theorem filter_dropHex {count : Nat} {cs rest : List Char} (h : dropHex count cs = some rest) :
    (cs.filter isHexDigit).length = count + (rest.filter isHexDigit).length := by
  induction count generalizing cs with
  | zero =>
      cases h
      simp
  | succ count ih =>
      cases cs with
      | nil => cases h
      | cons c cs =>
          rw [dropHex] at h
          split at h
          · next hhex =>
              rw [List.filter_cons_of_pos hhex, List.length_cons, ih h]
              omega
          · cases h

theorem filter_dropGroups {separator : Char} (hseparator : isHexDigit separator = false)
    {size count : Nat} {cs rest : List Char} (h : dropGroups separator size count cs = some rest) :
    (cs.filter isHexDigit).length = size * count + (rest.filter isHexDigit).length := by
  induction count generalizing cs with
  | zero =>
      cases h
      simp
  | succ count ih =>
      cases cs with
      | nil => cases h
      | cons c cs =>
          rw [dropGroups] at h
          split at h
          · next hsep =>
              obtain ⟨middle, hgroup, hrest⟩ := Option.bind_eq_some_iff.mp h
              have hc : ¬isHexDigit c = true := by simp [hsep, hseparator]
              rw [List.filter_cons_of_neg hc, filter_dropHex hgroup, ih hrest, Nat.mul_succ]
              omega
          · cases h

/-- Every notation has twelve hex digits. -/
theorem filter_of_macForm {form : MacForm} (hform : form ∈ macForms) {cs : List Char}
    (h : form.drop cs = some []) : (cs.filter isHexDigit).length = 12 := by
  have hforms : ∀ form ∈ macForms, form = .plain ∨
      ∃ separator size, form = .grouped separator size ∧ isHexDigit separator = false ∧
        size + size * (12 / size - 1) = 12 := by
    intro form hform
    simp only [macForms, List.mem_append, List.mem_flatMap, List.mem_map, List.mem_singleton] at hform
    rcases hform with ⟨separator, hseparator, size, hsize, rfl⟩ | rfl
    · refine .inr ⟨separator, size, rfl, ?_, ?_⟩
      · simp only [List.mem_cons, List.not_mem_nil, or_false] at hseparator
        rcases hseparator with rfl | rfl | rfl | rfl <;> rfl
      · simp only [List.mem_cons, List.not_mem_nil, or_false] at hsize
        rcases hsize with rfl | rfl | rfl <;> rfl
    · exact .inl rfl
  rcases hforms form hform with rfl | ⟨separator, size, rfl, hseparator, hsize⟩
  · exact filter_dropHex h
  · obtain ⟨rest, hfirst, hgroups⟩ := Option.bind_eq_some_iff.mp h
    rw [filter_dropHex hfirst, filter_dropGroups hseparator hgroups]
    simpa using hsize

/-- Six pairs between colons. -/
def macChars : List Char → List Char
  | [a, b, c, d, e, f, g, h, i, j, k, l] =>
      [a, b, ':', c, d, ':', e, f, ':', g, h, ':', i, j, ':', k, l]
  | _ => []

theorem macOfDigits_eq {cs digits : List Char}
    (hdigits : (cs.filter isHexDigit).map Char.toLower = digits) (hlength : digits.length = 12) :
    (macOfDigits cs).toList = macChars digits := by
  rw [macOfDigits, hdigits]
  match digits, hlength with
  | [a, b, c, d, e, f, g, h, i, j, k, l], _ => simp [pairs, join, macChars, List.intercalate]

/-- The normal form of a MAC address is one, and its own. -/
theorem stripChars_macChars {digits : List Char} (hlength : digits.length = 12)
    (hdigits : ∀ c ∈ digits, IsLowerHex c) : stripChars (macChars digits) = macChars digits := by
  match digits, hlength with
  | [a, b, c, d, e, f, g, h, i, j, k, l], _ =>
      have ha := (hdigits a (by simp)).2.2
      have hl := (hdigits l (by simp)).2.2
      simp [macChars, stripChars, ha, hl]

theorem normalizeMac_macChars {digits : List Char} (hlength : digits.length = 12)
    (hdigits : ∀ c ∈ digits, IsLowerHex c) :
    normalizeMac (some (String.ofList (macChars digits))) =
      some (String.ofList (macChars digits)) := by
  have hfilter : ((macChars digits).filter isHexDigit).map Char.toLower = digits := by
    match digits, hlength with
    | [a, b, c, d, e, f, g, h, i, j, k, l], _ =>
        have hcolon : isHexDigit ':' = false := by decide
        simp only [List.mem_cons, List.not_mem_nil, or_false, forall_eq_or_imp, forall_eq,
          IsLowerHex] at hdigits
        simp [macChars, hcolon, hdigits]
  have hstrip := stripChars_macChars hlength hdigits
  have hdrop : (MacForm.grouped ':' 2).drop (macChars digits) = some [] := by
    match digits, hlength with
    | [a, b, c, d, e, f, g, h, i, j, k, l], _ =>
        simp only [List.mem_cons, List.not_mem_nil, or_false, forall_eq_or_imp, forall_eq,
          IsLowerHex] at hdigits
        simp [macChars, MacForm.drop, dropHex, dropGroups, hdigits]
  have hform : (macForms.any fun form => form.drop (macChars digits) = some []) = true := by
    rw [List.any_eq_true]
    exact ⟨.grouped ':' 2, by decide, by simpa using hdrop⟩
  have hmac : macOfDigits (macChars digits) = String.ofList (macChars digits) := by
    rw [← String.toList_inj, macOfDigits_eq hfilter hlength, String.toList_ofList]
  simp only [normalizeMac, Option.getD_some, String.toList_ofList, hstrip, hform, if_true, hmac]

theorem exists_macChars {value : Option String} {mac : String} (h : normalizeMac value = some mac) :
    ∃ digits, digits.length = 12 ∧ (∀ c ∈ digits, IsLowerHex c) ∧ mac = String.ofList (macChars digits) := by
  unfold normalizeMac at h
  dsimp only at h
  generalize stripChars (value.getD "").toList = cs at h
  split at h
  · next hany =>
      obtain ⟨form, hform, hdrop⟩ := List.any_eq_true.mp hany
      obtain rfl : macOfDigits cs = mac := Option.some.inj h
      have hlength : ((cs.filter isHexDigit).map Char.toLower).length = 12 := by
        rw [List.length_map, filter_of_macForm hform (by simpa using hdrop)]
      refine ⟨_, hlength, fun c hc => ?_, ?_⟩
      · obtain ⟨digit, hdigit, rfl⟩ := List.mem_map.mp hc
        exact isLowerHex_toLower (List.mem_filter.mp hdigit).2
      · rw [← String.toList_inj, macOfDigits_eq rfl hlength, String.toList_ofList]
  · cases h

theorem normalizeMac_of_eq_some {value : Option String} {mac : String}
    (h : normalizeMac value = some mac) :
    normalizeMac (some mac) = some mac ∧ mac.toList.length = 17 ∧ strip mac = mac := by
  obtain ⟨digits, hlength, hdigits, rfl⟩ := exists_macChars h
  refine ⟨normalizeMac_macChars hlength hdigits, ?_, ?_⟩
  · rw [String.toList_ofList]
    match digits, hlength with
    | [a, b, c, d, e, f, g, h, i, j, k, l], _ => rfl
  · rw [strip, String.toList_ofList, stripChars_macChars hlength hdigits]

/-- Only digits and colons are written. -/
theorem plain_of_normalizeMac {value : Option String} {mac : String} (h : normalizeMac value = some mac) :
    ∀ c ∈ mac.toList, c = ':' ∨ IsLowerHex c := by
  obtain ⟨digits, hlength, hdigits, rfl⟩ := exists_macChars h
  rw [String.toList_ofList]
  match digits, hlength with
  | [a, b, c, d, e, f, g, h, i, j, k, l], _ =>
      simp only [List.mem_cons, List.not_mem_nil, or_false, forall_eq_or_imp, forall_eq] at hdigits
      simp [macChars, hdigits]

end Naco
