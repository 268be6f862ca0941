import Naco.Lib.Lowercase
import Naco.Lib.Wildcards

/-!
# What `str.casefold` leaves of a pattern

A character folds to one or more characters, and none but a wildcard or a bracket to one of these.
-/

namespace Py

theorem foldChar_ne_nil (c : Char) : foldChar c ≠ [] := by
  unfold foldChar
  split
  · simp
  · split
    · next codes hcodes =>
        have htable : ∀ entry ∈ Unicode.foldExpansions, entry.2 ≠ [] := by decide
        have hmem := List.lookup_eq_some_iff.mp hcodes
        obtain ⟨before, after, hsplit, -⟩ := hmem
        simpa using htable (c.toNat, codes) (by simp [hsplit])
    · split
      · simp
      · simp

/-- `*`, `?` and `[`. -/
def isSpecial (c : Char) : Bool :=
  c = '*' || c = '?' || c = '['

theorem not_isSpecial_ofNat {code : Nat} (h : code ≠ 0x2A ∧ code ≠ 0x3F ∧ code ≠ 0x5B) :
    isSpecial (Char.ofNat code) = false := by
  by_cases hvalid : code.isValidChar
  · have hne (c : Char) (hc : code ≠ c.toNat) : Char.ofNat code ≠ c := by
      rintro rfl
      exact hc (toNat_ofNat hvalid).symm
    simp [isSpecial, hne '*' h.1, hne '?' h.2.1, hne '[' h.2.2]
  · rw [Char.ofNat, dif_neg hvalid]
    decide

/-- Folding makes no wildcard and no bracket. -/
theorem not_isSpecial_of_mem_foldChar {c d : Char} (hc : isSpecial c = false) (hd : d ∈ foldChar c) :
    isSpecial d = false := by
  have hascii : ∀ code < 128, isSpecial (Char.ofNat code) = false →
      isSpecial (Char.ofNat code).toLower = false := by decide
  have hexpansions : ∀ entry ∈ Unicode.foldExpansions, ∀ code ∈ entry.2,
      code ≠ 0x2A ∧ code ≠ 0x3F ∧ code ≠ 0x5B := by decide
  have hruns : ∀ run ∈ Unicode.foldRuns, 0x5B < run.2.2.2 := forall_mem_of_all (by decide +kernel)
  unfold foldChar at hd
  split at hd
  · next h =>
      rw [List.mem_singleton.mp hd]
      have hlower := hascii c.toNat (by simpa [isAscii] using h)
      rw [Char.ofNat_toNat] at hlower
      exact hlower hc
  · split at hd
    · next codes hcodes =>
        obtain ⟨code, hcode, rfl⟩ := List.mem_map.mp hd
        obtain ⟨before, after, hsplit, -⟩ := List.lookup_eq_some_iff.mp hcodes
        exact not_isSpecial_ofNat (hexpansions (c.toNat, codes) (by simp [hsplit]) code hcode)
    · split at hd
      · next code hcode =>
          obtain ⟨run, hrun, -, rfl⟩ := Unicode.image_eq_some hcode
          have hlow := hruns run hrun
          rw [List.mem_singleton.mp hd]
          exact not_isSpecial_ofNat ⟨by omega, by omega, by omega⟩
      · rwa [List.mem_singleton.mp hd]

end Py
