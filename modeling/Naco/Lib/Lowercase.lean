import Naco.Lib.Python
import Naco.Lib.Text

/-!
# What `str.lower` leaves alone

A lower-cased text stays as it is when it is lower-cased again, and lower-casing neither makes nor
removes white space or backslashes. For the ASCII characters and for the images of the table this is a
finite check.
-/

namespace Py

/-- A character that `lower` keeps wherever it stands. -/
def IsLower (c : Char) : Prop :=
  c ≠ 'Σ' ∧ lowerChar c = [c]

instance : DecidablePred IsLower := fun c =>
  inferInstanceAs (Decidable (c ≠ 'Σ' ∧ lowerChar c = [c]))

/-- What `lower` may write for a character: kept from then on, and white space or a backslash only for
itself. -/
structure Lowers (c d : Char) : Prop where
  isLower : IsLower d
  isSpace : isSpace d = isSpace c
  backslash : d = '\\' ↔ c = '\\'

instance (c d : Char) : Decidable (Lowers c d) :=
  decidable_of_iff (IsLower d ∧ isSpace d = isSpace c ∧ (d = '\\' ↔ c = '\\'))
    ⟨fun h => ⟨h.1, h.2.1, h.2.2⟩, fun h => ⟨h.1, h.2, h.3⟩⟩

/-! ### Single characters -/

theorem lowers_ascii : ∀ code ∈ List.range 128, Lowers (Char.ofNat code) (Char.ofNat code).toLower :=
  forall_mem_of_all (by decide +kernel)

theorem toLower_small : ∀ code ∈ List.range 128, 0x61 ≤ code → code ≤ 0x7A →
    (Char.ofNat code).toLower = Char.ofNat code :=
  forall_mem_of_all (by decide +kernel)

/-- The characters that `lower` does not look up in the table. -/
theorem lowers_special :
    (Lowers (Char.ofNat 0x130) 'i' ∧ Lowers (Char.ofNat 0x130) (Char.ofNat 0x307)) ∧
      Lowers 'Σ' 'ς' ∧ Lowers 'Σ' 'σ' := by
  decide +kernel

/-! ### The table -/

namespace Unicode

/-- The run maps this code point. -/
def Covers (run : Nat × Nat × Nat × Nat) (code : Nat) : Prop :=
  run.1 ≤ code ∧ code ≤ run.2.1 ∧ (code - run.1) % run.2.2.1 = 0

instance (run : Nat × Nat × Nat × Nat) (code : Nat) : Decidable (Covers run code) :=
  inferInstanceAs (Decidable (_ ∧ _))

theorem image_eq_some {runs : Runs} {code image : Nat} (h : runs.image code = some image) :
    ∃ run ∈ runs, Covers run code ∧ image = run.2.2.2 + (code - run.1) := by
  obtain ⟨run, hrun, hsome⟩ := List.exists_of_findSome?_eq_some h
  dsimp only at hsome
  split at hsome
  · next hcovers => exact ⟨run, hrun, hcovers, (Option.some_inj.mp hsome).symm⟩
  · cases hsome

theorem image_eq_none {runs : Runs} {code : Nat} (h : ∀ run ∈ runs, ¬ Covers run code) :
    runs.image code = none := by
  rw [Runs.image, List.findSome?_eq_none_iff]
  intro run hrun
  exact if_neg (h run hrun)

/-- The code points of a run with their images. -/
def runPairs (run : Nat × Nat × Nat × Nat) : List (Nat × Nat) :=
  (List.range ((run.2.1 - run.1) / run.2.2.1 + 1)).map fun n =>
    (run.1 + run.2.2.1 * n, run.2.2.2 + run.2.2.1 * n)

theorem mem_runPairs {run : Nat × Nat × Nat × Nat} {code : Nat} (h : Covers run code) :
    (code, run.2.2.2 + (code - run.1)) ∈ runPairs run := by
  obtain ⟨hfirst, hlast, hstep⟩ := h
  have hmul : run.2.2.1 * ((code - run.1) / run.2.2.1) = code - run.1 :=
    Nat.mul_div_cancel' (Nat.dvd_of_mod_eq_zero hstep)
  refine List.mem_map.mpr ⟨(code - run.1) / run.2.2.1, List.mem_range.mpr ?_, ?_⟩
  · exact Nat.lt_succ_of_le (Nat.div_le_div_right (by omega))
  · rw [hmul]
    exact Prod.ext (by dsimp only; omega) rfl

/-- No image of the first run is mapped by the second: they lie apart, or point by point. -/
def avoids (run other : Nat × Nat × Nat × Nat) : Bool :=
  (run.2.2.2 + (run.2.1 - run.1)).blt other.1 || other.2.1.blt run.2.2.2 ||
    (runPairs run).all fun pair => !decide (Covers other pair.2)

theorem not_covers_of_avoids {run other : Nat × Nat × Nat × Nat} (h : avoids run other = true)
    {code : Nat} (hcovers : Covers run code) : ¬ Covers other (run.2.2.2 + (code - run.1)) := by
  have hpair := mem_runPairs hcovers
  obtain ⟨hfirst, hlast, -⟩ := hcovers
  rintro ⟨hofirst, holast, hostep⟩
  simp only [avoids, Bool.or_eq_true, Nat.blt_eq] at h
  rcases h with (habove | hbelow) | hpoints
  · omega
  · omega
  · have hnot := List.all_eq_true.mp hpoints _ hpair
    simp only [Bool.not_eq_true', decide_eq_false_iff_not] at hnot
    exact hnot ⟨hofirst, holast, hostep⟩

/-- The last image of a run. -/
def lastImage (run : Nat × Nat × Nat × Nat) : Nat :=
  run.2.2.2 + (run.2.1 - run.1)

/-- What else holds of the runs: neither the code points nor the images come near white space, and the
images are characters with no mapping of their own elsewhere. -/
def plainRun (run : Nat × Nat × Nat × Nat) : Bool :=
  128 ≤ run.1 && (lastImage run < 0xD800 || (0xDFFF < run.2.2.2 && lastImage run < 0x110000)) &&
    (lastImage run < 0x3A3 || 0x3A3 < run.2.2.2) && (lastImage run < 0x130 || 0x130 < run.2.2.2) &&
    (128 ≤ run.2.2.2 || (0x61 ≤ run.2.2.2 && lastImage run ≤ 0x7A)) &&
    spaces.all fun range =>
      (range.2 < run.1 || run.2.1 < range.1) && (range.2 < run.2.2.2 || lastImage run < range.1)

theorem lowerRuns_plain : ∀ run ∈ lowerRuns, plainRun run = true :=
  List.all_eq_true.mp (by decide +kernel)

theorem lowerRuns_avoids :
    (lowerRuns.all fun run => lowerRuns.all fun other => avoids run other) = true := by
  decide +kernel

end Unicode

/-! ### Characters -/

theorem toNat_ofNat {code : Nat} (h : code.isValidChar) : (Char.ofNat code).toNat = code := by
  unfold Char.ofNat
  rw [dif_pos h]
  rfl

theorem isSpace_of_apart {c : Char} (h : ∀ range ∈ Unicode.spaces, range.2 < c.toNat ∨ c.toNat < range.1) :
    isSpace c = false := by
  rw [isSpace, Unicode.Ranges.mem, List.any_eq_false]
  intro range hrange
  have hapart := h range hrange
  simp only [Bool.and_eq_true, decide_eq_true_eq]
  omega

theorem lowers_of_image {c : Char} {image : Nat}
    (h : Unicode.lowerRuns.image c.toNat = some image) : Lowers c (Char.ofNat image) := by
  obtain ⟨run, hrun, hcovers, himage⟩ := Unicode.image_eq_some h
  have hnone : Unicode.lowerRuns.image image = none := by
    rw [himage]
    refine Unicode.image_eq_none fun other hother => Unicode.not_covers_of_avoids ?_ hcovers
    exact List.all_eq_true.mp (List.all_eq_true.mp Unicode.lowerRuns_avoids run hrun) other hother
  have hplain := Unicode.lowerRuns_plain run hrun
  obtain ⟨hfirst, hlast, -⟩ := hcovers
  simp only [Unicode.plainRun, Bool.and_eq_true, Bool.or_eq_true, decide_eq_true_eq,
    List.all_eq_true] at hplain
  simp only [Unicode.lastImage] at hplain
  obtain ⟨⟨⟨⟨⟨hcode, hscalar⟩, hsigma⟩, hdotted⟩, hascii⟩, hspaces⟩ := hplain
  have hnat : (Char.ofNat image).toNat = image := by
    refine toNat_ofNat ?_
    unfold Nat.isValidChar
    omega
  have hne (d : Char) (hd : image ≠ d.toNat) : Char.ofNat image ≠ d := by
    rintro rfl
    exact hd hnat.symm
  have hsame : lowerChar (Char.ofNat image) = [Char.ofNat image] := by
    unfold lowerChar
    split
    · next hsmall =>
        rw [isAscii, hnat, decide_eq_true_eq] at hsmall
        rw [toLower_small image (List.mem_range.mpr hsmall) (by omega) (by omega)]
    · rw [hnat, if_neg (by omega), hnone]
  refine ⟨⟨hne 'Σ' ?_, hsame⟩, ?_, ?_⟩
  · change image ≠ 0x3A3
    omega
  · rw [isSpace_of_apart, isSpace_of_apart]
    · intro range hrange
      have := (hspaces range hrange).1
      omega
    · intro range hrange
      have := (hspaces range hrange).2
      rw [hnat]
      omega
  · have hleft : image ≠ 0x5C := by omega
    have hright : c ≠ '\\' := by
      rintro rfl
      have : ('\\' : Char).toNat = 92 := rfl
      omega
    exact ⟨fun heq => absurd heq (hne '\\' hleft), fun heq => absurd heq hright⟩

/-- Every character that `lower` writes for another one than a capital sigma. -/
theorem lowers_of_mem_lowerChar {c d : Char} (h : d ∈ lowerChar c) : c ≠ 'Σ' → Lowers c d := by
  intro hsigma
  unfold lowerChar at h
  split at h
  · next hascii =>
      rw [List.mem_singleton.mp h]
      rw [isAscii, decide_eq_true_eq] at hascii
      have hlowers := lowers_ascii c.toNat (List.mem_range.mpr hascii)
      rwa [Char.ofNat_toNat] at hlowers
  · next hascii =>
      split at h
      · next hdotted =>
          have hc : c = Char.ofNat 0x130 := by rw [← hdotted, Char.ofNat_toNat]
          subst hc
          rcases List.mem_pair.mp h with rfl | rfl
          · exact lowers_special.1.1
          · exact lowers_special.1.2
      · next hdotted =>
          split at h
          · next image himage =>
              rw [List.mem_singleton.mp h]
              exact lowers_of_image himage
          · next hnone =>
              obtain rfl := List.mem_singleton.mp h
              refine ⟨⟨hsigma, ?_⟩, rfl, Iff.rfl⟩
              rw [lowerChar, if_neg hascii, if_neg hdotted, hnone]

theorem lowerChar_ne_nil (c : Char) : lowerChar c ≠ [] := by
  unfold lowerChar
  split
  · exact List.cons_ne_nil _ _
  · split
    · exact List.cons_ne_nil _ _
    · split <;> exact List.cons_ne_nil _ _

/-! ### Texts -/

/-- What `lower` writes for the characters of a text, in order. -/
theorem lowerAfter_eq_flatten (before cs : List Char) :
    ∃ parts : List (List Char), lowerAfter before cs = parts.flatten ∧
      List.Forall₂ (fun c part => part ≠ [] ∧ ∀ d ∈ part, Lowers c d) cs parts := by
  induction cs generalizing before with
  | nil => exact ⟨[], rfl, .nil⟩
  | cons c cs ih =>
      obtain ⟨parts, hparts, hforall⟩ := ih (c :: before)
      refine ⟨_ :: parts, by rw [lowerAfter, hparts, List.flatten_cons], .cons ?_ hforall⟩
      split
      · next hsigma =>
          subst hsigma
          refine ⟨List.cons_ne_nil _ _, fun d hd => ?_⟩
          rw [List.mem_singleton.mp hd]
          split
          · exact lowers_special.2.1
          · exact lowers_special.2.2
      · next hsigma => exact ⟨lowerChar_ne_nil c, fun d hd => lowers_of_mem_lowerChar hd hsigma⟩

theorem lowerAfter_of_isLower {cs : List Char} (h : ∀ c ∈ cs, IsLower c) (before : List Char) :
    lowerAfter before cs = cs := by
  induction cs generalizing before with
  | nil => rfl
  | cons c cs ih =>
      obtain ⟨⟨hsigma, hc⟩, hcs⟩ := List.forall_mem_cons.mp h
      rw [lowerAfter, if_neg hsigma, hc, ih hcs]
      rfl

/-- Every character of a lower-cased text comes from one of the text. -/
theorem exists_lowers_of_mem {s : String} {d : Char} (h : d ∈ (lower s).toList) :
    ∃ c ∈ s.toList, Lowers c d := by
  obtain ⟨parts, hparts, hforall⟩ := lowerAfter_eq_flatten [] s.toList
  rw [lower, String.toList_ofList, hparts] at h
  obtain ⟨part, hpart, hd⟩ := List.mem_flatten.mp h
  obtain ⟨c, hc, -, hlowers⟩ := forall₂_mem_right hforall hpart
  exact ⟨c, hc, hlowers d hd⟩

/-- `lower` of a lower-cased text changes nothing. -/
theorem lower_lower (s : String) : lower (lower s) = lower s := by
  have hlower : ∀ d ∈ (lower s).toList, IsLower d := by
    intro d hd
    obtain ⟨c, -, hlowers⟩ := exists_lowers_of_mem hd
    exact hlowers.isLower
  rw [lower, lowerAfter_of_isLower hlower, String.ofList_toList]

/-- A lower-cased text begins with white space if and only if the text does. -/
theorem head?_lower (s : String) :
    (lower s).toList.head?.any isSpace = s.toList.head?.any isSpace := by
  obtain ⟨parts, hparts, hforall⟩ := lowerAfter_eq_flatten [] s.toList
  rw [lower, String.toList_ofList, hparts]
  generalize s.toList = cs at hforall ⊢
  cases hforall with
  | nil => rfl
  | @cons c part cs parts hpart _ =>
      obtain ⟨hne, hlowers⟩ := hpart
      obtain ⟨d, rest, rfl⟩ := List.exists_cons_of_ne_nil hne
      simp [(hlowers d (by simp)).isSpace]

/-- A lower-cased text ends in white space if and only if the text does. -/
theorem getLast?_lower (s : String) :
    (lower s).toList.getLast?.any isSpace = s.toList.getLast?.any isSpace := by
  obtain ⟨parts, hparts, hforall⟩ := lowerAfter_eq_flatten [] s.toList
  rw [lower, String.toList_ofList, hparts]
  generalize s.toList = cs at hforall ⊢
  have hreverse := List.forall₂_reverse_iff.mpr hforall
  rw [List.getLast?_eq_head?_reverse, List.getLast?_eq_head?_reverse, List.reverse_flatten,
    ← List.map_reverse]
  generalize cs.reverse = cs at hreverse ⊢
  generalize parts.reverse = parts at hreverse ⊢
  cases hreverse with
  | nil => rfl
  | @cons c part cs parts hpart _ =>
      obtain ⟨hne, hlowers⟩ := hpart
      obtain ⟨init, d, rfl⟩ := (List.eq_nil_or_concat part).resolve_left hne
      simp [(hlowers d (by simp)).isSpace]

end Py
