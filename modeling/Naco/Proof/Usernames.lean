import Naco.Identity
import Naco.Lib.Lowercase

/-!
# Canonical user names

A name is trimmed before its domain is dropped, so white space that follows the last backslash is kept:
the result is then not canonical, and trimming it gives another name.
-/

namespace Naco

open Py

/-- The part of the trimmed name after its last backslash. -/
def accountPart (raw : Option String) : String :=
  let name := strip (raw.getD "")
  if '\\' ∈ name.toList then afterLast '\\' name else name

/-- A name that `canonical_username` may return. -/
structure IsCanonical (name : String) : Prop where
  stable : canonicalUsername (some name) = name
  head : name.toList.head?.any isSpace = false
  last : name.toList.getLast?.any isSpace = false
  backslash : '\\' ∉ name.toList
  control : name.toList.any (·.toNat < 0x20) = false
  length : name.toList.length ≤ maxUsername

/-! ### Trimming -/

theorem getLast?_strip (s : String) : (strip s).toList.getLast?.any isSpace = false := by
  rw [strip, String.toList_ofList, stripChars, List.getLast?_reverse]
  cases h : ((s.toList.dropWhile isSpace).reverse.dropWhile isSpace).head? with
  | none => rfl
  | some c =>
      have := List.head?_dropWhile_not isSpace (s.toList.dropWhile isSpace).reverse
      rw [h] at this
      simpa using this

/-- Nothing is trimmed of a text without white space at its ends. -/
theorem strip_of_ends {s : String} (hhead : s.toList.head?.any isSpace = false)
    (hlast : s.toList.getLast?.any isSpace = false) : strip s = s := by
  have hkeep {cs : List Char} (h : cs.head?.any isSpace = false) : cs.dropWhile isSpace = cs := by
    cases cs with
    | nil => rfl
    | cons c cs => exact List.dropWhile_cons_of_neg (by simpa using h)
  rw [strip, stripChars, hkeep hhead, hkeep, List.reverse_reverse, String.ofList_toList]
  rwa [List.head?_reverse]

/-! ### The account -/

theorem backslash_not_mem_accountPart (raw : Option String) : '\\' ∉ (accountPart raw).toList := by
  unfold accountPart
  dsimp only
  split
  · rw [afterLast, String.toList_ofList, List.mem_reverse]
    intro hmem
    simpa using List.mem_takeWhile_imp hmem
  · next hnone => exact hnone

theorem getLast?_accountPart (raw : Option String) :
    (accountPart raw).toList.getLast?.any isSpace = false := by
  have hlast := getLast?_strip (raw.getD "")
  unfold accountPart
  dsimp only
  split
  · rw [afterLast, String.toList_ofList, List.getLast?_reverse]
    rw [← List.head?_reverse] at hlast
    generalize (strip (raw.getD "")).toList.reverse = reversed at hlast ⊢
    cases reversed with
    | nil => rfl
    | cons c cs =>
        rw [List.takeWhile_cons]
        split
        · rw [List.head?_cons] at hlast ⊢
          exact hlast
        · rw [List.head?_nil, Option.any_none]
  · exact hlast

/-- The checks of the lower-cased name. -/
def Usable (name : String) : Prop :=
  name ≠ "" ∧ name.toList.length ≤ maxUsername ∧ name.toList.any (·.toNat < 0x20) = false

/-- The last step of `canonical_username`. -/
def checkedName (name : String) : String :=
  if name = "" ∨ maxUsername < name.toList.length ∨ name.toList.any (·.toNat < 0x20) then "" else name

theorem canonicalUsername_eq (raw : Option String) :
    canonicalUsername raw = checkedName (lower (accountPart raw)) := by
  unfold canonicalUsername accountPart checkedName
  rfl

theorem canonicalUsername_of_usable {raw : Option String} (h : Usable (lower (accountPart raw))) :
    canonicalUsername raw = lower (accountPart raw) := by
  rw [canonicalUsername_eq]
  generalize lower (accountPart raw) = name at h ⊢
  obtain ⟨hne, hlength, hcontrol⟩ := h
  refine if_neg ?_
  rintro (hempty | hlong | hlow)
  · exact hne hempty
  · exact absurd hlength (Nat.not_le.mpr hlong)
  · exact absurd (hcontrol.symm.trans hlow) Bool.false_ne_true

theorem canonicalUsername_of_not_usable {raw : Option String} (h : ¬ Usable (lower (accountPart raw))) :
    canonicalUsername raw = "" := by
  rw [canonicalUsername_eq]
  generalize lower (accountPart raw) = name at h ⊢
  refine if_pos ?_
  by_contra hgood
  obtain ⟨hne, hgood⟩ := not_or.mp hgood
  obtain ⟨hlength, hcontrol⟩ := not_or.mp hgood
  exact h ⟨hne, Nat.not_lt.mp hlength, Bool.eq_false_iff.mpr hcontrol⟩

/-- The account of a name that has nothing to trim and no domain is the name. -/
theorem accountPart_of_plain {name : String} (hhead : name.toList.head?.any isSpace = false)
    (hlast : name.toList.getLast?.any isSpace = false) (hbackslash : '\\' ∉ name.toList) :
    accountPart (some name) = name := by
  simp only [accountPart, Option.getD_some, strip_of_ends hhead hlast, if_neg hbackslash]

/-- A usable name without white space in front is canonical. -/
theorem isCanonical_lower {raw : Option String} (husable : Usable (lower (accountPart raw)))
    (hhead : (accountPart raw).toList.head?.any isSpace = false) :
    IsCanonical (lower (accountPart raw)) := by
  have hhead' : (lower (accountPart raw)).toList.head?.any isSpace = false :=
    (head?_lower _).trans hhead
  have hlast : (lower (accountPart raw)).toList.getLast?.any isSpace = false :=
    (getLast?_lower _).trans (getLast?_accountPart raw)
  have hbackslash : '\\' ∉ (lower (accountPart raw)).toList := by
    intro hmem
    obtain ⟨c, hc, hlowers⟩ := exists_lowers_of_mem hmem
    rw [hlowers.backslash.mp rfl] at hc
    exact backslash_not_mem_accountPart raw hc
  have hpart := accountPart_of_plain hhead' hlast hbackslash
  refine ⟨?_, hhead', hlast, hbackslash, husable.2.2, husable.2.1⟩
  rw [canonicalUsername_of_usable, hpart, lower_lower]
  rwa [hpart, lower_lower]

/-- The result is canonical unless white space follows the last backslash of a usable name. -/
theorem canonical_username_iff (raw : Option String) :
    (canonicalUsername raw = "" ∨ IsCanonical (canonicalUsername raw)) ↔
      (accountPart raw).toList.head?.any isSpace = false ∨ ¬ Usable (lower (accountPart raw)) := by
  by_cases husable : Usable (lower (accountPart raw))
  · rw [canonicalUsername_of_usable husable]
    constructor
    · rintro (hempty | hcanonical)
      · exact absurd hempty husable.1
      · exact .inl ((head?_lower _).symm.trans hcanonical.head)
    · rintro (hhead | hnot)
      · exact .inr (isCanonical_lower husable hhead)
      · exact absurd husable hnot
  · rw [canonicalUsername_of_not_usable husable]
    exact ⟨fun _ => .inr husable, fun _ => .inl rfl⟩

/-- A space between the domain and the name is kept. -/
theorem canonical_username_keeps_space :
    ¬ (canonicalUsername (some "CORP\\ alice") = "" ∨
      IsCanonical (canonicalUsername (some "CORP\\ alice"))) := by
  have hname : canonicalUsername (some "CORP\\ alice") = " alice" := by decide +kernel
  rw [hname]
  rintro (hempty | hcanonical)
  · exact absurd hempty (by decide)
  · exact absurd hcanonical.head (by decide +kernel)

end Naco
