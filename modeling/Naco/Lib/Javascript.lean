import Naco.Lib.Text
import Mathlib.Algebra.Group.Nat.Defs

/-!
# Strings and numbers of JavaScript

What `trim` removes, and the double that a numeral becomes.
-/

namespace Js

/-! ### White space -/

/-- The codes of `WhiteSpace` and `LineTerminator`. -/
def spaces : List Nat := [
  0x09, 0x0A, 0x0B, 0x0C, 0x0D, 0x20, 0xA0, 0x1680, 0x2000, 0x2001, 0x2002, 0x2003, 0x2004, 0x2005,
  0x2006, 0x2007, 0x2008, 0x2009, 0x200A, 0x2028, 0x2029, 0x202F, 0x205F, 0x3000, 0xFEFF]

def isSpace (c : Char) : Bool :=
  c.toNat ∈ spaces

/-- `s.trim()`. -/
def trim (s : String) : String :=
  String.ofList (Py.dropEnds isSpace s.toList)

theorem mem_trim {s : String} {c : Char} (h : c ∈ (trim s).toList) : c ∈ s.toList := by
  rw [trim, String.toList_ofList, Py.dropEnds, List.mem_reverse] at h
  have hdropped := (List.dropWhile_sublist _).subset h
  rw [List.mem_reverse] at hdropped
  exact (List.dropWhile_sublist _).subset hdropped

theorem trim_trim (s : String) : trim (trim s) = trim s := by
  simp only [trim, String.toList_ofList, Py.dropEnds_dropEnds]

theorem trim_eq_self_iff {s : String} :
    trim s = s ↔ (∀ c ∈ s.toList.head?, isSpace c = false) ∧
      ∀ c ∈ s.toList.getLast?, isSpace c = false := by
  rw [trim, ← String.toList_inj, String.toList_ofList, Py.dropEnds_eq_self_iff]

/-- White space to JavaScript and not to Python. -/
def byteOrderMark : Char := '\uFEFF'

theorem isSpace_imp {c : Char} (h : isSpace c = true) : Py.isSpace c = true ∨ c = byteOrderMark := by
  have hall : ∀ n ∈ spaces, Py.Unicode.spaces.mem n = true ∨ n = 0xFEFF := by decide
  rcases hall c.toNat (of_decide_eq_true h) with hspace | hmark
  · exact .inl hspace
  · right
    rw [← Char.ofNat_toNat c, hmark, byteOrderMark]

/-- A text that Python has stripped may still have byte order marks at its ends. -/
theorem trim_eq_self_iff_of_strip {s : String} (h : Py.strip s = s) :
    trim s = s ↔ s.toList.head? ≠ some byteOrderMark ∧ s.toList.getLast? ≠ some byteOrderMark := by
  rw [Py.strip, ← String.toList_inj, String.toList_ofList, Py.stripChars_eq_self_iff] at h
  have hend : ∀ {found : Option Char}, (∀ c ∈ found, Py.isSpace c = false) →
      ((∀ c ∈ found, isSpace c = false) ↔ found ≠ some byteOrderMark) := by
    intro found hpy
    constructor
    · rintro hnone rfl
      exact absurd (hnone _ rfl) (by decide)
    · intro hne c hc
      by_contra hspace
      rcases isSpace_imp (Bool.not_eq_false _ ▸ hspace) with hpyspace | rfl
      · rw [hpy c hc] at hpyspace
        exact Bool.noConfusion hpyspace
      · exact hne hc
  rw [trim_eq_self_iff, hend h.1, hend h.2]

/-! ### Numbers -/

/-- The number with 53 significant bits that is nearest; of two, the one with an even significand. -/
def nearest (n : Nat) : Nat :=
  let unit := 2 ^ (n.log2 - 52)
  let below := n / unit
  if 2 * (n % unit) < unit ∨ (2 * (n % unit) = unit ∧ below % 2 = 0) then below * unit
  else (below + 1) * unit

/-- The double that `Number` makes of a numeral. Nothing stands for infinity. -/
def double (n : Nat) : Option Nat :=
  if nearest n < 2 ^ 1024 then some (nearest n) else none

theorem double_of_lt {n : Nat} (h : n < 2 ^ 53) : double n = some n := by
  have hlog : n.log2 - 52 = 0 := by
    by_cases hzero : n = 0
    · rw [hzero]
      rfl
    · have hbound := (Nat.log2_lt hzero).mpr h
      omega
  have hnearest : nearest n = n := by simp [nearest, hlog, Nat.mod_one]
  have hfinite : ∀ k, 53 ≤ k → n < 2 ^ k :=
    fun k hk => Nat.lt_of_lt_of_le h (Nat.pow_le_pow_right (by decide) hk)
  rw [double, hnearest, if_pos (hfinite 1024 (by decide))]

end Js
