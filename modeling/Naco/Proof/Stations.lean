import Naco.Proof.MacForms

/-!
# What follows an address

At the start of one text at most one of the thirteen expressions matches: the separator comes after two,
four, six or twelve digits. So the address of a station id ends in one place, whatever the SSID contains.
-/

namespace Naco

open Py

/-- The text does not go on with a hex digit. -/
def EndsDigits (rest : List Char) : Prop :=
  ∀ c ∈ rest.head?, isHexDigit c = false

theorem takeWhile_append_hex {digits rest : List Char} (hdigits : ∀ c ∈ digits, isHexDigit c = true)
    (hrest : EndsDigits rest) :
    (digits ++ rest).takeWhile isHexDigit = digits ∧ (digits ++ rest).dropWhile isHexDigit = rest := by
  have hempty : rest.takeWhile isHexDigit = [] ∧ rest.dropWhile isHexDigit = rest := by
    cases rest with
    | nil => exact ⟨rfl, rfl⟩
    | cons c rest => simp [hrest c rfl]
  rw [List.takeWhile_append_of_pos hdigits, List.dropWhile_append_of_pos hdigits, hempty.1, hempty.2,
    List.append_nil]
  exact ⟨rfl, rfl⟩

/-- The hex digits at the start of the text end at the first separator of the form. -/
def MacForm.Leads (cs : List Char) : MacForm → Prop
  | .plain => (cs.takeWhile isHexDigit).length = 12
  | .grouped separator size => (cs.takeWhile isHexDigit).length = size ∧ size < 12 ∧
      (cs.dropWhile isHexDigit).head? = some separator

theorem leads_of_drop {form : MacForm} (hform : form ∈ macForms) {cs rest : List Char}
    (h : form.drop cs = some rest) (hrest : EndsDigits rest) : form.Leads cs := by
  rcases mem_macForms_iff.mp hform with rfl | ⟨separator, hseparator, size, hsize, rfl⟩
  · obtain ⟨digits, rfl, hlength, hhex⟩ := dropHex_eq_some h
    rw [MacForm.Leads, (takeWhile_append_hex hhex hrest).1]
    exact hlength
  · obtain ⟨group, groups, rfl, hlength, hall⟩ := drop_grouped_eq_some h
    have hsizes : size < 12 ∧ 0 < 12 / size - 1 := by
      simp only [List.mem_cons, List.not_mem_nil, or_false] at hsize
      rcases hsize with rfl | rfl | rfl <;> decide
    cases groups with
    | nil =>
        rw [List.length_nil] at hlength
        omega
    | cons next groups =>
        obtain ⟨⟨hgroup, hhex⟩, -⟩ := List.forall_mem_cons.mp hall
        have hends : EndsDigits (separated separator (next :: groups) ++ rest) := by
          intro c hc
          cases hc
          exact not_hex_of_separator hseparator
        rw [MacForm.Leads, intercalate_cons_groups, List.append_assoc, (takeWhile_append_hex hhex hends).1,
          (takeWhile_append_hex hhex hends).2]
        exact ⟨hgroup, hsizes.1, rfl⟩

/-- At the start of one text at most one form matches. -/
theorem form_unique {form other : MacForm} (hform : form ∈ macForms) (hother : other ∈ macForms)
    {cs rest rest' : List Char} (h : form.drop cs = some rest) (h' : other.drop cs = some rest')
    (hrest : EndsDigits rest) (hrest' : EndsDigits rest') : other = form := by
  have hlead := leads_of_drop hform h hrest
  have hlead' := leads_of_drop hother h' hrest'
  unfold MacForm.Leads at hlead hlead'
  cases form with
  | plain =>
      cases other with
      | plain => rfl
      | grouped separator size =>
          obtain ⟨hsize, hlt, -⟩ := hlead'
          exact absurd hlead (by omega)
  | grouped separator size =>
      obtain ⟨hsize, hlt, hhead⟩ := hlead
      cases other with
      | plain => exact absurd hlead' (by omega)
      | grouped separator' size' =>
          obtain ⟨hsize', -, hhead'⟩ := hlead'
          obtain rfl := Option.some.inj (hhead.symm.trans hhead')
          rw [← hsize, ← hsize']

theorem drop_append {form : MacForm} (hform : form ∈ macForms) {cs : List Char}
    (h : form.drop cs = some []) (rest : List Char) : form.drop (cs ++ rest) = some rest := by
  rcases mem_macForms_iff.mp hform with rfl | ⟨separator, -, size, -, rfl⟩
  · obtain ⟨digits, rfl, hlength, hhex⟩ := dropHex_eq_some h
    rw [List.append_nil, MacForm.drop, ← hlength]
    exact dropHex_append hhex rest
  · obtain ⟨group, groups, rfl, hlength, hall⟩ := drop_grouped_eq_some h
    rw [List.append_nil]
    exact drop_grouped_append hlength hall rest

theorem endsDigits_nil : EndsDigits [] :=
  fun _ hc => nomatch hc

theorem endsDigits_colon (ssid : List Char) : EndsDigits (':' :: ssid) := by
  intro c hc
  cases hc
  decide

/-- What `_STATION` makes of a text that begins with an address: where that ends is determined. -/
theorem parseCalledStation_of_drop {value : String} {cs : List Char} (hcs : stripChars value.toList = cs)
    {form : MacForm} (hform : form ∈ macForms) {rest : List Char} (h : form.drop cs = some rest)
    {mac ssid : List Char}
    (hstation : rest = [] ∧ mac = cs ∧ ssid = [] ∨ rest = ':' :: ssid ∧ cs = mac ++ ':' :: ssid) :
    parseCalledStation (some value) = (normalizeMac (some (String.ofList mac)),
      (orNone (strip (String.ofList ssid))).map (truncate 64)) := by
  have hends : EndsDigits rest := by
    rcases hstation with ⟨rfl, -⟩ | ⟨rfl, -⟩
    · exact endsDigits_nil
    · exact endsDigits_colon ssid
  unfold parseCalledStation
  simp only [Option.getD_some, hcs]
  split
  · next hnone =>
      have hform := List.findSome?_eq_none_iff.mp hnone form hform
      rcases hstation with ⟨rfl, -⟩ | ⟨rfl, -⟩ <;> simp [h] at hform
  · next mac' ssid' hsome =>
      obtain ⟨other, hother, hfound⟩ := List.exists_of_findSome?_eq_some hsome
      have hsame {rest'} (hdrop : other.drop cs = some rest') (hends' : EndsDigits rest') :
          rest' = rest := by
        rw [form_unique hform hother h hdrop hends hends', h] at hdrop
        exact (Option.some.inj hdrop).symm
      split at hfound
      · next hdrop =>
          cases hfound
          rcases hstation with ⟨-, rfl, rfl⟩ | ⟨hrest, -⟩
          · rfl
          · exact absurd ((hsame hdrop endsDigits_nil).trans hrest) (by simp)
      · next found hdrop =>
          have hrest' := hsame hdrop (endsDigits_colon found)
          obtain ⟨hmac, rfl⟩ := Prod.mk.inj (Option.some.inj hfound)
          rcases hstation with ⟨hrest, -⟩ | ⟨hrest, hsplit⟩
          · exact absurd (hrest'.trans hrest) (by simp)
          · obtain ⟨-, rfl⟩ := List.cons.inj (hrest'.trans hrest)
            rw [← hmac, hsplit, List.length_append, List.length_cons, List.take_left' (by omega)]
      · cases hfound

theorem exists_form_of_normalizeMac {m mac : String} (hstrip : strip m = m)
    (h : normalizeMac (some m) = some mac) : ∃ form ∈ macForms, form.drop m.toList = some [] := by
  rw [← hstrip]
  exact exists_form_iff.mpr (normalizeMac_eq_some_iff.mp ⟨mac, h⟩)

/-- A station id is read as the address and the SSID that it was written from. -/
theorem parse_called_station_splits (m s mac : String) (hm : strip m = m)
    (hmac : normalizeMac (some m) = some mac) (hs : strip s = s) (hlength : 1 ≤ s.toList.length)
    (hshort : s.toList.length ≤ 64) :
    parseCalledStation (some (m ++ ":" ++ s)) = (some mac, some s) ∧
      parseCalledStation (some m) = (some mac, none) := by
  obtain ⟨form, hform, hdrop⟩ := exists_form_of_normalizeMac hm hmac
  have hmChars : stripChars m.toList = m.toList := by
    rw [strip] at hm
    rw [← String.toList_inj, String.toList_ofList] at hm
    exact hm
  have hsChars : stripChars s.toList = s.toList := by
    rw [strip] at hs
    rw [← String.toList_inj, String.toList_ofList] at hs
    exact hs
  have hmNe : m.toList ≠ [] := by
    intro hnil
    obtain ⟨digits, hdigits⟩ := exists_form_iff.mp ⟨form, hform, hdrop⟩
    have hempty := hdigits.filter_eq
    rw [hnil, List.filter_nil] at hempty
    rw [← hempty] at hdigits
    exact absurd hdigits.1 (by decide)
  constructor
  · have hchars : stripChars (m ++ ":" ++ s).toList = m.toList ++ ':' :: s.toList := by
      have hsNe : s.toList ≠ [] := List.ne_nil_of_length_pos hlength
      rw [String.toList_append, String.toList_append, List.append_assoc]
      refine stripChars_eq_self_iff.mpr ⟨?_, ?_⟩
      · rw [List.head?_append_of_ne_nil _ hmNe]
        exact (stripChars_eq_self_iff.mp hmChars).1
      · rw [List.getLast?_append_of_ne_nil _ (by simp), List.getLast?_append_of_ne_nil _ hsNe]
        exact (stripChars_eq_self_iff.mp hsChars).2
    rw [parseCalledStation_of_drop hchars hform (drop_append hform hdrop (':' :: s.toList))
      (.inr ⟨rfl, rfl⟩), String.ofList_toList, String.ofList_toList, hmac, hs, orNone, if_neg ?_,
      Option.map_some, truncate, List.take_of_length_le hshort, String.ofList_toList]
    rintro rfl
    exact absurd hlength (by decide)
  · rw [parseCalledStation_of_drop hmChars hform hdrop (.inl ⟨rfl, rfl, rfl⟩), String.ofList_toList, hmac]
    rfl

/-- An SSID with a colon and hex digits. -/
theorem parse_called_station_splits_guest :
    parseCalledStation (some ("AA-BB-CC-DD-EE-FF" ++ ":" ++ "staff:5a")) =
        (some "aa:bb:cc:dd:ee:ff", some "staff:5a") ∧
      parseCalledStation (some "AA-BB-CC-DD-EE-FF") = (some "aa:bb:cc:dd:ee:ff", none) :=
  parse_called_station_splits "AA-BB-CC-DD-EE-FF" "staff:5a" "aa:bb:cc:dd:ee:ff" (by decide +kernel)
    (by decide +kernel) (by decide +kernel) (by decide) (by decide)

end Naco
