import Naco.Proof.Netutils

/-!
# The notations of a MAC address

The thirteen expressions accept one grammar: twelve hex digits in one piece, or in equal groups of 2, 4 or
6 with one separator throughout.
-/

namespace Naco

open Py

/-- `cs` writes an address with these digits. -/
def WritesMac (cs digits : List Char) : Prop :=
  digits.length = 12 ∧ (∀ c ∈ digits, isHexDigit c = true) ∧
    (cs = digits ∨ ∃ separator ∈ [':', '-', '.', ' '], ∃ size ∈ [2, 4, 6], ∃ groups : List (List Char),
      groups.flatten = digits ∧ (∀ group ∈ groups, group.length = size) ∧
        cs = [separator].intercalate groups)

/-- The digits in lower case, in pairs between colons. -/
def writtenMac (digits : List Char) : String :=
  join ":" ((pairs (digits.map Char.toLower)).map String.ofList)

/-! ### Groups of digits -/

theorem dropHex_append {digits : List Char} (h : ∀ c ∈ digits, isHexDigit c = true) (rest : List Char) :
    dropHex digits.length (digits ++ rest) = some rest := by
  induction digits with
  | nil => rfl
  | cons c digits ih =>
      obtain ⟨hc, hdigits⟩ := List.forall_mem_cons.mp h
      rw [List.length_cons, List.cons_append, dropHex, if_pos hc, ih hdigits]

theorem dropHex_eq_some {count : Nat} {cs rest : List Char} (h : dropHex count cs = some rest) :
    ∃ digits, cs = digits ++ rest ∧ digits.length = count ∧ ∀ c ∈ digits, isHexDigit c = true := by
  induction count generalizing cs with
  | zero =>
      cases h
      exact ⟨[], rfl, rfl, by simp⟩
  | succ count ih =>
      cases cs with
      | nil => cases h
      | cons c cs =>
          rw [dropHex] at h
          by_cases hc : isHexDigit c = true
          · rw [if_pos hc] at h
            obtain ⟨digits, rfl, rfl, hdigits⟩ := ih h
            exact ⟨c :: digits, rfl, rfl, List.forall_mem_cons.mpr ⟨hc, hdigits⟩⟩
          · rw [if_neg hc] at h
            cases h

/-- Groups of hex digits, each after a separator. -/
def separated (separator : Char) (groups : List (List Char)) : List Char :=
  groups.flatMap (separator :: ·)

theorem dropGroups_append {separator : Char} {size : Nat} {groups : List (List Char)}
    (h : ∀ group ∈ groups, group.length = size ∧ ∀ c ∈ group, isHexDigit c = true) (rest : List Char) :
    dropGroups separator size groups.length (separated separator groups ++ rest) = some rest := by
  induction groups with
  | nil => rfl
  | cons group groups ih =>
      obtain ⟨⟨hsize, hhex⟩, hgroups⟩ := List.forall_mem_cons.mp h
      rw [List.length_cons, separated, List.flatMap_cons, List.cons_append, List.cons_append, dropGroups,
        if_pos rfl, List.append_assoc, ← hsize, dropHex_append hhex, Option.bind_some, hsize]
      exact ih hgroups

theorem dropGroups_eq_some {separator : Char} {size count : Nat} {cs rest : List Char}
    (h : dropGroups separator size count cs = some rest) :
    ∃ groups, cs = separated separator groups ++ rest ∧ groups.length = count ∧
      ∀ group ∈ groups, group.length = size ∧ ∀ c ∈ group, isHexDigit c = true := by
  induction count generalizing cs with
  | zero =>
      cases h
      exact ⟨[], rfl, rfl, by simp⟩
  | succ count ih =>
      cases cs with
      | nil => cases h
      | cons c cs =>
          rw [dropGroups] at h
          by_cases hc : c = separator
          · rw [if_pos hc] at h
            obtain ⟨middle, hfirst, hrest⟩ := Option.bind_eq_some_iff.mp h
            obtain ⟨group, rfl, hsize, hhex⟩ := dropHex_eq_some hfirst
            obtain ⟨groups, rfl, rfl, hgroups⟩ := ih hrest
            refine ⟨group :: groups, ?_, rfl, List.forall_mem_cons.mpr ⟨⟨hsize, hhex⟩, hgroups⟩⟩
            simp [separated, hc]
          · rw [if_neg hc] at h
            cases h

theorem intercalate_cons_groups (separator : Char) (group : List Char) (groups : List (List Char)) :
    [separator].intercalate (group :: groups) = group ++ separated separator groups := by
  induction groups generalizing group with
  | nil => simp [separated]
  | cons next groups ih =>
      rw [List.intercalate_cons_of_ne_nil (by simp), ih, separated, separated, List.flatMap_cons]
      simp

/-- A form that matches at the start of a text. -/
theorem drop_grouped_eq_some {separator : Char} {size : Nat} {cs rest : List Char}
    (h : (MacForm.grouped separator size).drop cs = some rest) :
    ∃ group groups, cs = [separator].intercalate (group :: groups) ++ rest ∧
      groups.length = 12 / size - 1 ∧
      ∀ g ∈ group :: groups, g.length = size ∧ ∀ c ∈ g, isHexDigit c = true := by
  obtain ⟨middle, hfirst, hgroups⟩ := Option.bind_eq_some_iff.mp h
  obtain ⟨group, rfl, hsize, hhex⟩ := dropHex_eq_some hfirst
  obtain ⟨groups, rfl, hlength, hall⟩ := dropGroups_eq_some hgroups
  refine ⟨group, groups, ?_, hlength, List.forall_mem_cons.mpr ⟨⟨hsize, hhex⟩, hall⟩⟩
  rw [intercalate_cons_groups, List.append_assoc]

theorem drop_grouped_append {separator : Char} {size : Nat} {group : List Char}
    {groups : List (List Char)} (hlength : groups.length = 12 / size - 1)
    (hall : ∀ g ∈ group :: groups, g.length = size ∧ ∀ c ∈ g, isHexDigit c = true) (rest : List Char) :
    (MacForm.grouped separator size).drop ([separator].intercalate (group :: groups) ++ rest) =
      some rest := by
  obtain ⟨⟨hsize, hhex⟩, hgroups⟩ := List.forall_mem_cons.mp hall
  rw [intercalate_cons_groups, List.append_assoc, MacForm.drop, ← hlength]
  have hfirst := dropHex_append hhex (separated separator groups ++ rest)
  rw [hsize] at hfirst
  rw [hfirst, Option.bind_some, dropGroups_append hgroups]

/-! ### The grammar -/

theorem mem_macForms_iff {form : MacForm} :
    form ∈ macForms ↔ form = .plain ∨
      ∃ separator ∈ [':', '-', '.', ' '], ∃ size ∈ [2, 4, 6], form = .grouped separator size := by
  simp only [macForms, List.mem_append, List.mem_flatMap, List.mem_map, List.mem_singleton, eq_comm,
    or_comm]

theorem length_flatten_of_forall {groups : List (List Char)} {size : Nat}
    (h : ∀ group ∈ groups, group.length = size) : groups.flatten.length = groups.length * size := by
  rw [List.length_flatten, List.map_congr_left h, List.map_const', List.sum_replicate_nat]

/-- A text matches one of the forms if and only if it writes an address. -/
theorem exists_form_iff {cs : List Char} :
    (∃ form ∈ macForms, form.drop cs = some []) ↔ ∃ digits, WritesMac cs digits := by
  constructor
  · rintro ⟨form, hform, hdrop⟩
    rcases mem_macForms_iff.mp hform with rfl | ⟨separator, hseparator, size, hsize, rfl⟩
    · obtain ⟨digits, rfl, hlength, hhex⟩ := dropHex_eq_some hdrop
      exact ⟨digits, hlength, hhex, .inl (List.append_nil _)⟩
    · obtain ⟨group, groups, rfl, hlength, hall⟩ := drop_grouped_eq_some hdrop
      refine ⟨(group :: groups).flatten, ?_, ?_, .inr ⟨separator, hseparator, size, hsize,
        group :: groups, rfl, fun g hg => (hall g hg).1, List.append_nil _⟩⟩
      · have hcount : (12 / size - 1 + 1) * size = 12 := by
          simp only [List.mem_cons, List.not_mem_nil, or_false] at hsize
          rcases hsize with rfl | rfl | rfl <;> rfl
        rw [length_flatten_of_forall fun g hg => (hall g hg).1, List.length_cons, hlength, hcount]
      · intro c hc
        obtain ⟨g, hg, hcg⟩ := List.mem_flatten.mp hc
        exact (hall g hg).2 c hcg
  · rintro ⟨digits, hlength, hhex, rfl | ⟨separator, hseparator, size, hsize, groups, rfl, hgroups, rfl⟩⟩
    · refine ⟨.plain, mem_macForms_iff.mpr (.inl rfl), ?_⟩
      have hdrop := dropHex_append hhex []
      rwa [List.append_nil, hlength] at hdrop
    · refine ⟨.grouped separator size,
        mem_macForms_iff.mpr (.inr ⟨separator, hseparator, size, hsize, rfl⟩), ?_⟩
      rw [length_flatten_of_forall hgroups] at hlength
      cases groups with
      | nil => simp at hlength
      | cons group groups =>
          have hcount : groups.length = 12 / size - 1 := by
            rw [List.length_cons] at hlength
            simp only [List.mem_cons, List.not_mem_nil, or_false] at hsize
            rcases hsize with rfl | rfl | rfl <;> omega
          have hdrop := @drop_grouped_append separator size group groups hcount
            (fun g hg => ⟨hgroups g hg, fun c hc => hhex c (List.mem_flatten_of_mem hg hc)⟩) []
          rwa [List.append_nil] at hdrop

theorem not_hex_of_separator {separator : Char} (h : separator ∈ [':', '-', '.', ' ']) :
    isHexDigit separator = false := by
  have hall : ∀ separator ∈ [':', '-', '.', ' '], isHexDigit separator = false :=
    forall_mem_of_all (by decide)
  exact hall separator h

theorem filter_intercalate {separator : Char} (hseparator : isHexDigit separator = false)
    {groups : List (List Char)} (hhex : ∀ c ∈ groups.flatten, isHexDigit c = true) :
    ([separator].intercalate groups).filter isHexDigit = groups.flatten := by
  have hseparated : ∀ groups : List (List Char), (∀ c ∈ groups.flatten, isHexDigit c = true) →
      (separated separator groups).filter isHexDigit = groups.flatten := by
    intro groups hhex
    induction groups with
    | nil => rfl
    | cons group groups ih =>
        rw [List.flatten_cons] at hhex ⊢
        have hgroup := List.filter_eq_self.mpr fun c hc => hhex c (List.mem_append_left _ hc)
        have hrest := ih fun c hc => hhex c (List.mem_append_right _ hc)
        rw [separated, List.flatMap_cons, List.filter_append,
          List.filter_cons_of_neg (by simp [hseparator]), hgroup]
        exact congrArg (group ++ ·) hrest
  cases groups with
  | nil => rfl
  | cons group groups =>
      rw [List.flatten_cons] at hhex ⊢
      rw [intercalate_cons_groups, List.filter_append,
        List.filter_eq_self.mpr fun c hc => hhex c (List.mem_append_left _ hc),
        hseparated groups fun c hc => hhex c (List.mem_append_right _ hc)]

/-- The digits are all there is of hex digits. -/
theorem WritesMac.filter_eq {cs digits : List Char} (h : WritesMac cs digits) :
    cs.filter isHexDigit = digits := by
  obtain ⟨-, hhex, rfl | ⟨separator, hseparator, size, -, groups, rfl, -, rfl⟩⟩ := h
  · exact List.filter_eq_self.mpr hhex
  · exact filter_intercalate (not_hex_of_separator hseparator) hhex

theorem normalizeMac_of_form {value : String}
    (h : ∃ form ∈ macForms, form.drop (strip value).toList = some []) :
    normalizeMac (some value) = some (macOfDigits (strip value).toList) := by
  rw [strip, String.toList_ofList] at h ⊢
  obtain ⟨form, hform, hdrop⟩ := h
  refine if_pos (List.any_eq_true.mpr ⟨form, hform, ?_⟩)
  rw [Option.getD_some, hdrop]
  rfl

theorem normalizeMac_of_no_form {value : String}
    (h : ¬ ∃ form ∈ macForms, form.drop (strip value).toList = some []) :
    normalizeMac (some value) = none := by
  rw [strip, String.toList_ofList] at h
  refine if_neg fun hany => h ?_
  obtain ⟨form, hform, hdrop⟩ := List.any_eq_true.mp hany
  exact ⟨form, hform, of_decide_eq_true hdrop⟩

theorem normalizeMac_eq_some_iff {value : String} :
    (∃ mac, normalizeMac (some value) = some mac) ↔ ∃ digits, WritesMac (strip value).toList digits := by
  rw [← exists_form_iff]
  by_cases h : ∃ form ∈ macForms, form.drop (strip value).toList = some []
  · exact iff_of_true ⟨_, normalizeMac_of_form h⟩ h
  · refine iff_of_false ?_ h
    rw [normalizeMac_of_no_form h]
    simp

theorem normalizeMac_of_writesMac {value : String} {digits : List Char}
    (h : WritesMac (strip value).toList digits) : normalizeMac (some value) = some (writtenMac digits) := by
  rw [normalizeMac_of_form (exists_form_iff.mpr ⟨digits, h⟩), macOfDigits, h.filter_eq, writtenMac]

theorem writtenMac_eq {digits : List Char} (hlength : digits.length = 12) :
    (writtenMac digits).toList = macChars (digits.map Char.toLower) := by
  rw [writtenMac]
  match digits, hlength with
  | [a, b, c, d, e, f, g, h, i, j, k, l], _ => simp [pairs, join, macChars, List.intercalate]

theorem writtenMac_eq_iff {digits other : List Char} (hdigits : digits.length = 12)
    (hother : other.length = 12) :
    writtenMac digits = writtenMac other ↔ digits.map Char.toLower = other.map Char.toLower := by
  rw [← String.toList_inj, writtenMac_eq hdigits, writtenMac_eq hother]
  match digits, other, hdigits, hother with
  | [a, b, c, d, e, f, g, h, i, j, k, l], [a', b', c', d', e', f', g', h', i', j', k', l'], _, _ =>
      simp [macChars]

/-- `normalize_mac` accepts one grammar, keeps its own results, and identifies two texts exactly when
their digits agree but for case. -/
theorem normalize_mac_spec (value other : String) :
    ((∃ mac, normalizeMac (some value) = some mac) ↔
        ∃ digits, WritesMac (strip value).toList digits) ∧
      (∀ digits, WritesMac (strip value).toList digits →
        normalizeMac (some value) = some (writtenMac digits)) ∧
      (∀ mac, normalizeMac (some value) = some mac → normalizeMac (some mac) = some mac) ∧
      ∀ digits digits', WritesMac (strip value).toList digits → WritesMac (strip other).toList digits' →
        (normalizeMac (some value) = normalizeMac (some other) ↔
          digits.map Char.toLower = digits'.map Char.toLower) := by
  refine ⟨normalizeMac_eq_some_iff, fun digits h => normalizeMac_of_writesMac h,
    fun mac h => (normalizeMac_of_eq_some h).1, fun digits digits' h h' => ?_⟩
  rw [normalizeMac_of_writesMac h, normalizeMac_of_writesMac h', Option.some_inj,
    writtenMac_eq_iff h.1 h'.1]

end Naco
