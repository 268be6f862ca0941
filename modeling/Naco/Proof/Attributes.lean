import Naco.App

/-!
# What reply attributes get through

The names of a policy's attributes are what keeps it out of FreeRADIUS' control flow. The expression
`_NAME` means an ASCII letter and then letters, digits and hyphens, but its `$` also stands before a
final line feed: such a name passes, and it passes the list of managed attributes too, which compares
whole names. The dictionary has no such name, so what an administrator types is refused; what is stored
is compiled without the dictionary.
-/

namespace Naco

open Py

/-- An ASCII letter and at most 63 letters, digits and hyphens. -/
def IsPlainName (cs : List Char) : Prop :=
  ∃ c rest, cs = c :: rest ∧ isAsciiLetter c = true ∧ (∀ c ∈ rest, isNameChar c = true) ∧
    rest.length ≤ 63

/-- The attribute belongs to FreeRADIUS or to NACo itself. -/
def IsManaged (name : String) : Prop :=
  lower name ∈ forbiddenNames ∨ ∃ start ∈ forbiddenPrefixes, start.toList <+: (lower name).toList

/-- The control characters of ASCII. -/
def isAsciiControl (c : Char) : Bool :=
  c.toNat < 0x20 || c.toNat = 0x7F

/-- The control characters of Unicode. -/
def isControl (c : Char) : Bool :=
  isAsciiControl c || (0x80 ≤ c.toNat && c.toNat ≤ 0x9F)

def ReplyValue.Plain (control : Char → Bool) : ReplyValue → Prop
  | .int value => value ≤ 2 ^ 32 - 1
  | .text value => 1 ≤ value.toList.length ∧ value.toList.length ≤ 253 ∧
      ¬ ['%', '{'] <:+: value.toList ∧ ∀ c ∈ value.toList, control c = false

def ReplyEntry.Plain (control : Char → Bool) : ReplyEntry → Prop
  | .one value => value.Plain control
  | .many values => 1 ≤ values.length ∧ values.length ≤ 10 ∧ ∀ value ∈ values, value.Plain control

/-- Names and values are what the module promises. -/
def ReplyAttributes.Plain (control : Char → Bool) (attributes : ReplyAttributes) : Prop :=
  ∀ entry ∈ attributes, IsPlainName entry.1.toList ∧ ¬ IsManaged entry.1 ∧ entry.2.Plain control

/-! ### Names -/

def EndsInLineFeed (name : String) : Prop :=
  name.toList.getLast? = some '\n'

theorem isAscii_of_isNameChar {c : Char} (h : isNameChar c = true) : isAscii c = true := by
  simp only [isNameChar, isAsciiLetter, Bool.or_eq_true, Bool.and_eq_true, decide_eq_true_eq,
    Char.le_def, UInt32.le_iff_toNat_le] at h
  simp only [isAscii, decide_eq_true_eq, Char.toNat]
  rcases h with ((h | h) | h) | rfl
  · exact lt_of_le_of_lt h.2 (by decide)
  · exact lt_of_le_of_lt h.2 (by decide)
  · exact lt_of_le_of_lt h.2 (by decide)
  · decide

theorem isNameChar_of_isAsciiLetter {c : Char} (h : isAsciiLetter c = true) : isNameChar c = true := by
  simp [isNameChar, h]

theorem isPlainName_iff {cs : List Char} :
    IsPlainName cs ↔ (∃ c ∈ cs.head?, isAsciiLetter c = true) ∧ (∀ c ∈ cs, isNameChar c = true) ∧
      cs.length ≤ 64 := by
  constructor
  · rintro ⟨c, rest, rfl, hletter, hrest, hlength⟩
    refine ⟨⟨c, rfl, hletter⟩, ?_, ?_⟩
    · exact List.forall_mem_cons.mpr ⟨isNameChar_of_isAsciiLetter hletter, hrest⟩
    · rw [List.length_cons]
      omega
  · rintro ⟨⟨c, hhead, hletter⟩, hchars, hlength⟩
    cases cs with
    | nil => cases hhead
    | cons first rest =>
        cases hhead
        rw [List.length_cons] at hlength
        exact ⟨c, rest, rfl, hletter, (List.forall_mem_cons.mp hchars).2, by omega⟩

theorem isAttributeName_iff {name : String} :
    isAttributeName name = true ↔
      IsPlainName (if name.toList.getLast? = some '\n' then name.toList.dropLast else name.toList) := by
  unfold isAttributeName
  generalize (if name.toList.getLast? = some '\n' then name.toList.dropLast else name.toList) = cs
  cases cs with
  | nil => simp [IsPlainName]
  | cons c rest =>
      simp only [Bool.and_eq_true, List.all_eq_true, decide_eq_true_eq, and_assoc]
      constructor
      · rintro ⟨hletter, hrest, hlength⟩
        exact ⟨c, rest, rfl, hletter, hrest, hlength⟩
      · rintro ⟨_, _, heq, hletter, hrest, hlength⟩
        cases heq
        exact ⟨hletter, hrest, hlength⟩

/-- A name that passes the expression is plain but for a final line feed. -/
theorem isPlainName_iff_of_isAttributeName {name : String} (h : isAttributeName name = true) :
    IsPlainName name.toList ↔ ¬ EndsInLineFeed name := by
  rw [isAttributeName_iff] at h
  unfold EndsInLineFeed
  split at h
  · next hlast =>
      refine iff_of_false ?_ (not_not.mpr hlast)
      intro hplain
      have hfeed := (isPlainName_iff.mp hplain).2.1 '\n' (List.mem_of_getLast? hlast)
      exact absurd hfeed (by decide)
  · next hlast => exact iff_of_true h hlast

/-! ### The dictionary -/

/-- The file holds ASCII names, one a line. -/
def RadiusDictionary.OfFile (dictionary : RadiusDictionary) : Prop :=
  ∃ names closest, dictionary = .ofNames names closest ∧
    ∀ name ∈ names, isAsciiText name = true ∧ '\n' ∉ name.toList

theorem spelling_of_ofFile {dictionary : RadiusDictionary} (h : dictionary.OfFile) {key spelled : String}
    (hspelled : dictionary.spelling key = some spelled) :
    lower spelled = key ∧ isAsciiText spelled = true ∧ '\n' ∉ spelled.toList := by
  obtain ⟨names, closest, rfl, hnames⟩ := h
  have hmem := Dict.get?_eq_some_iff.mp hspelled
  rcases Dict.mem_items_of_foldl_set hmem with hempty | ⟨name, hname, heq⟩
  · cases hempty
  · cases heq
    exact ⟨rfl, hnames _ (List.mem_of_mem_filter hname)⟩

theorem toLower_class {c : Char} (h : isAscii c = true) :
    isAsciiLetter c.toLower = isAsciiLetter c ∧ isNameChar c.toLower = isNameChar c ∧
      (c.toLower = '\n' → c = '\n') := by
  have hall : ∀ n < 128, isAsciiLetter (Char.ofNat n).toLower = isAsciiLetter (Char.ofNat n) ∧
      isNameChar (Char.ofNat n).toLower = isNameChar (Char.ofNat n) ∧
        ((Char.ofNat n).toLower = '\n' → Char.ofNat n = '\n') := by
    decide +kernel
  have hc := hall c.toNat (by simpa [isAscii] using h)
  rwa [Char.ofNat_toNat] at hc

/-- Two ASCII texts with one lower-case form are alike to the expression. -/
theorem isPlainName_of_map_toLower {cs ds : List Char} (hcs : ∀ c ∈ cs, isAscii c = true)
    (hds : ∀ d ∈ ds, isAscii d = true) (h : cs.map Char.toLower = ds.map Char.toLower)
    (hplain : IsPlainName cs) : IsPlainName ds := by
  obtain ⟨⟨c, hhead, hletter⟩, hchars, hlength⟩ := isPlainName_iff.mp hplain
  have hmem : ∀ d ∈ ds, ∃ c ∈ cs, c.toLower = d.toLower := by
    intro d hd
    have hin : d.toLower ∈ cs.map Char.toLower := by
      rw [h]
      exact List.mem_map_of_mem hd
    exact List.mem_map.mp hin
  refine isPlainName_iff.mpr ⟨?_, ?_, ?_⟩
  · have hheads := congrArg List.head? h
    rw [List.head?_map, List.head?_map, Option.mem_def.mp hhead] at hheads
    cases ds with
    | nil => cases hheads
    | cons d ds =>
        have hlower : c.toLower = d.toLower := by simpa using hheads
        refine ⟨d, rfl, ?_⟩
        rw [← (toLower_class (hds d List.mem_cons_self)).1, ← hlower,
          (toLower_class (hcs c (List.mem_of_head? hhead))).1]
        exact hletter
  · intro d hd
    obtain ⟨c, hc, hlower⟩ := hmem d hd
    rw [← (toLower_class (hds d hd)).2.1, ← hlower, (toLower_class (hcs c hc)).2.1]
    exact hchars c hc
  · have hlengths := congrArg List.length h
    simp only [List.length_map] at hlengths
    omega

/-- The spelling of a name that passes the expression is plain, and so was the name. -/
theorem isPlainName_spelled {dictionary : RadiusDictionary} (h : dictionary.OfFile)
    {name spelled : String} (hname : isAttributeName name = true)
    (hspelled : dictionary.spelling (lower name) = some spelled) :
    IsPlainName spelled.toList ∧ ¬ EndsInLineFeed name := by
  obtain ⟨hlower, hascii, hfeed⟩ := spelling_of_ofFile h hspelled
  have hshape := isAttributeName_iff.mp hname
  have hnameAscii : ∀ c ∈ name.toList, isAscii c = true := by
    intro c hc
    split at hshape
    · next hlast =>
        have hsplit : name.toList = name.toList.dropLast ++ ['\n'] :=
          (List.dropLast_append_getLast? '\n' hlast).symm
        rw [hsplit, List.mem_append, List.mem_singleton] at hc
        rcases hc with hc | rfl
        · exact isAscii_of_isNameChar ((isPlainName_iff.mp hshape).2.1 c hc)
        · decide
    · exact isAscii_of_isNameChar ((isPlainName_iff.mp hshape).2.1 c hc)
  have hmap : name.toList.map Char.toLower = spelled.toList.map Char.toLower := by
    rw [← toList_lower_of_isAscii (List.all_eq_true.mpr hnameAscii), ← toList_lower_of_isAscii hascii,
      hlower]
  have hnot : ¬ EndsInLineFeed name := by
    intro hlast
    have hin : '\n' ∈ name.toList.map Char.toLower :=
      List.mem_map.mpr ⟨'\n', List.mem_of_getLast? hlast, by decide⟩
    rw [hmap] at hin
    obtain ⟨c, hc, hlowered⟩ := List.mem_map.mp hin
    have hcAscii := List.all_eq_true.mp hascii c hc
    rw [(toLower_class hcAscii).2.2 hlowered] at hc
    exact hfeed hc
  exact ⟨isPlainName_of_map_toLower hnameAscii (List.all_eq_true.mp hascii) hmap
    ((isPlainName_iff_of_isAttributeName hname).mpr hnot), hnot⟩

/-! ### Values -/

/-- The string has none of the control characters beyond ASCII. -/
def LacksC1 (s : String) : Prop :=
  ∀ c ∈ s.toList, ¬ (0x80 ≤ c.toNat ∧ c.toNat ≤ 0x9F)

/-- So have the strings among the values of one attribute. -/
def Json.LacksC1 : Json → Prop
  | .str s => Naco.LacksC1 s
  | .arr items => ∀ s, Json.str s ∈ items → Naco.LacksC1 s
  | _ => True

theorem plain_of_checkValue {name : String} {raw : Json} {value : ReplyValue}
    (h : checkValue name raw = .ok value) :
    value.Plain isAsciiControl ∧
      ((∀ s, raw = .str s → LacksC1 s) → value.Plain isControl) := by
  cases raw with
  | int n =>
      simp only [checkValue] at h
      split at h
      · next hrange =>
          cases h
          have hle : n.toNat ≤ 2 ^ 32 - 1 := by omega
          exact ⟨hle, fun _ => hle⟩
      · cases h
  | str s =>
      simp only [checkValue] at h
      split at h
      · cases h
      split at h
      · cases h
      split at h
      · cases h
      next hlength hexpansion hcontrol =>
        cases h
        obtain ⟨hne, hmax⟩ := not_or.mp hlength
        have hpos : 1 ≤ s.toList.length := by
          rw [Nat.one_le_iff_ne_zero, ne_eq, List.length_eq_zero_iff, String.toList_eq_nil_iff]
          exact hne
        have hascii : ∀ c ∈ s.toList, isAsciiControl c = false := by
          rw [Bool.not_eq_true, List.any_eq_false] at hcontrol
          exact fun c hc => Bool.eq_false_iff.mpr (hcontrol c hc)
        refine ⟨⟨hpos, not_lt.mp hmax, hexpansion, hascii⟩, fun hlacks => ?_⟩
        refine ⟨hpos, not_lt.mp hmax, hexpansion, fun c hc => ?_⟩
        have hc1 := hlacks s rfl c hc
        simp only [isControl, hascii c hc, Bool.false_or, Bool.and_eq_false_iff,
          decide_eq_false_iff_not]
        tauto
  | _ => cases h

theorem plain_of_mapM_checkValue {name : String} {raws : List Json} {values : List ReplyValue}
    (h : raws.mapM (checkValue name) = .ok values) :
    values.length = raws.length ∧ (∀ value ∈ values, value.Plain isAsciiControl) ∧
      ((∀ s, Json.str s ∈ raws → LacksC1 s) → ∀ value ∈ values, value.Plain isControl) := by
  have hpairs := mapM_eq_ok_iff.mp h
  refine ⟨hpairs.length_eq.symm, ?_, ?_⟩
  · intro value hvalue
    obtain ⟨raw, -, hraw⟩ := forall₂_mem_right hpairs hvalue
    exact (plain_of_checkValue hraw).1
  · intro hlacks value hvalue
    obtain ⟨raw, hmem, hraw⟩ := forall₂_mem_right hpairs hvalue
    refine (plain_of_checkValue hraw).2 fun s hs => hlacks s ?_
    rw [← hs]
    exact hmem

/-! ### One attribute -/

/-- The name an attribute is kept under. -/
def keptName (dictionary : Option RadiusDictionary) (name : String) : Except AttributesError String :=
  match dictionary with
  | some dictionary => known dictionary name
  | none => .ok name

/-- The values of an attribute. -/
def checkEntry (name : String) (value : Json) : Except AttributesError ReplyEntry :=
  match value with
  | .arr values =>
      if 1 ≤ values.length ∧ values.length ≤ maxValues then
        return .many (← values.mapM (checkValue name))
      else
        .error (.valueCount name)
  | value => return .one (← checkValue name value)

theorem checkAttribute_of_free {dictionary : Option RadiusDictionary} {name : String} {value : Json}
    (hname : isAttributeName name = true) (hfree : ¬ IsManaged name) :
    checkAttribute dictionary name value =
      (do let kept ← keptName dictionary name; return (kept, ← checkEntry kept value)) := by
  have hpass : ¬ (lower name ∈ forbiddenNames ∨
      (forbiddenPrefixes.any fun start => start.toList.isPrefixOf (lower name).toList) = true) := by
    simpa only [IsManaged, List.any_eq_true, List.isPrefixOf_iff_prefix] using hfree
  unfold checkAttribute
  rw [if_neg (not_not.mpr hname), if_neg hpass]
  have hvalues : ∀ kept : String, (match value with
      | .arr values =>
          if 1 ≤ values.length ∧ values.length ≤ maxValues then do
            return (kept, ReplyEntry.many (← values.mapM (checkValue kept)))
          else
            .error (.valueCount kept)
      | value => do return (kept, .one (← checkValue kept value))) =
      (do return (kept, ← checkEntry kept value) : Except AttributesError _) := by
    intro kept
    cases value with
    | arr values =>
        simp only [checkEntry]
        split
        · cases values.mapM (checkValue kept) <;> rfl
        · rfl
    | _ =>
        simp only [checkEntry]
        cases checkValue kept _ <;> rfl
  cases dictionary with
  | none => exact hvalues name
  | some dictionary =>
      simp only [keptName]
      cases known dictionary name with
      | error error => rfl
      | ok kept => exact hvalues kept

theorem checkAttribute_eq_ok_iff {dictionary : Option RadiusDictionary} {name : String} {value : Json}
    {entry : String × ReplyEntry} :
    checkAttribute dictionary name value = .ok entry ↔
      isAttributeName name = true ∧ ¬ IsManaged name ∧ keptName dictionary name = .ok entry.1 ∧
        checkEntry entry.1 value = .ok entry.2 := by
  by_cases hname : isAttributeName name = true
  swap
  · simp [checkAttribute, hname]
  by_cases hfree : IsManaged name
  · have hrefused : lower name ∈ forbiddenNames ∨
        (forbiddenPrefixes.any fun start => start.toList.isPrefixOf (lower name).toList) = true := by
      simpa only [IsManaged, List.any_eq_true, List.isPrefixOf_iff_prefix] using hfree
    unfold checkAttribute
    rw [if_neg (not_not.mpr hname), if_pos hrefused]
    simp [hfree]
  rw [checkAttribute_of_free hname hfree, bind_eq_ok_iff]
  simp only [bind_eq_ok_iff, hname, hfree, not_false_eq_true, true_and]
  constructor
  · rintro ⟨kept, hkept, checked, hchecked, h⟩
    cases h
    exact ⟨hkept, hchecked⟩
  · rintro ⟨hkept, hchecked⟩
    exact ⟨_, hkept, _, hchecked, rfl⟩

theorem plain_of_checkEntry {name : String} {value : Json} {entry : ReplyEntry}
    (h : checkEntry name value = .ok entry) :
    entry.Plain isAsciiControl ∧ (Json.LacksC1 value → entry.Plain isControl) := by
  cases value with
  | arr values =>
      simp only [checkEntry] at h
      split at h
      · next hcount =>
          obtain ⟨results, hresults, h⟩ := bind_eq_ok_iff.mp h
          cases h
          obtain ⟨hlength, hascii, hall⟩ := plain_of_mapM_checkValue hresults
          rw [← hlength] at hcount
          exact ⟨⟨hcount.1, hcount.2, hascii⟩, fun hlacks => ⟨hcount.1, hcount.2, hall hlacks⟩⟩
      · cases h
  | _ =>
      simp only [checkEntry] at h
      obtain ⟨checked, hchecked, h⟩ := bind_eq_ok_iff.mp h
      cases h
      have hplain := plain_of_checkValue hchecked
      refine ⟨hplain.1, fun hlacks => hplain.2 ?_⟩
      rintro s hs
      cases hs <;> exact hlacks

theorem lower_of_keptName {dictionary : Option RadiusDictionary}
    (hfile : ∀ d ∈ dictionary, d.OfFile) {name kept : String}
    (h : keptName dictionary name = .ok kept) : lower kept = lower name := by
  cases dictionary with
  | none =>
      cases h
      rfl
  | some dictionary =>
      simp only [keptName, known] at h
      split at h
      · next spelled hspelled =>
          cases h
          exact (spelling_of_ofFile (hfile dictionary rfl) hspelled).1
      · cases h

theorem isPlainName_keptName_iff {dictionary : Option RadiusDictionary}
    (hfile : ∀ d ∈ dictionary, d.OfFile) {name kept : String} (hname : isAttributeName name = true)
    (h : keptName dictionary name = .ok kept) : IsPlainName kept.toList ↔ ¬ EndsInLineFeed name := by
  cases dictionary with
  | none =>
      cases h
      exact isPlainName_iff_of_isAttributeName hname
  | some dictionary =>
      simp only [keptName, known] at h
      split at h
      · next spelled hspelled =>
          cases h
          have hplain := isPlainName_spelled (hfile dictionary rfl) hname hspelled
          exact iff_of_true hplain.1 hplain.2
      · cases h

/-- Stored names pass the expression again. -/
theorem isAttributeName_keptName {dictionary : Option RadiusDictionary}
    (hfile : ∀ d ∈ dictionary, d.OfFile) {name kept : String} (hname : isAttributeName name = true)
    (h : keptName dictionary name = .ok kept) : isAttributeName kept = true := by
  cases dictionary with
  | none =>
      cases h
      exact hname
  | some dictionary =>
      simp only [keptName, known] at h
      split at h
      · next spelled hspelled =>
          cases h
          have hplain := (isPlainName_spelled (hfile dictionary rfl) hname hspelled).1
          have hfeed := (spelling_of_ofFile (hfile dictionary rfl) hspelled).2.2
          rw [isAttributeName_iff, if_neg fun hlast => hfeed (List.mem_of_getLast? hlast)]
          exact hplain
      · cases h

/-! ### The mapping -/

/-- The result keeps the entries in the order of their names; of two with one spelling, the last. -/
theorem validateReplyAttributes_obj_iff {members : List (String × Json)}
    {dictionary : Option RadiusDictionary} {attributes : ReplyAttributes} :
    validateReplyAttributes (.obj members) dictionary = .ok attributes ↔
      (Json.entries members).length ≤ maxAttrs ∧
        ∃ checked, List.Forall₂ (fun entry kept => checkAttribute dictionary entry.1 entry.2 = .ok kept)
            (Json.entries members) checked ∧
          attributes = (updateWith Dict.empty checked).items := by
  unfold validateReplyAttributes
  split
  · next hempty =>
      have hnil : members = [] := by simpa [Json.isFalsy] using hempty
      subst hnil
      constructor
      · intro h
        cases h
        exact ⟨Nat.zero_le _, [], .nil, rfl⟩
      · rintro ⟨-, checked, hchecked, rfl⟩
        cases hchecked
        rfl
  · simp only
    split
    · next hmany =>
        refine iff_of_false (by simp) ?_
        rintro ⟨hfew, -⟩
        omega
    · next hfew =>
        simp only [← mapM_eq_ok_iff, bind_eq_ok_iff]
        constructor
        · rintro ⟨checked, hchecked, h⟩
          cases h
          exact ⟨by omega, checked, hchecked, rfl⟩
        · rintro ⟨-, checked, hchecked, rfl⟩
          exact ⟨checked, hchecked, rfl⟩

theorem mem_updateWith_empty {checked : List (String × ReplyEntry)} {entry : String × ReplyEntry}
    (h : entry ∈ (updateWith Dict.empty checked).items) : entry ∈ checked := by
  rcases Dict.mem_items_of_foldl_set h with hempty | ⟨found, hfound, rfl⟩
  · cases hempty
  · exact hfound

theorem exists_mem_updateWith {checked : List (String × ReplyEntry)} {entry : String × ReplyEntry}
    (h : entry ∈ checked) : ∃ value, (entry.1, value) ∈ (updateWith Dict.empty checked).items := by
  have hsome : ((updateWith Dict.empty checked).get? entry.1).isSome :=
    Dict.mem_keys_foldl_set (.inr ⟨entry, h, rfl⟩)
  obtain ⟨value, hvalue⟩ := Option.isSome_iff_exists.mp hsome
  exact ⟨value, Dict.get?_eq_some_iff.mp hvalue⟩

section

variable {members : List (String × Json)} {dictionary : Option RadiusDictionary}
  {attributes : ReplyAttributes} (hfile : ∀ d ∈ dictionary, d.OfFile)
  (h : validateReplyAttributes (.obj members) dictionary = .ok attributes)
include hfile h

/-- Every entry of the result comes from one of the mapping. -/
theorem entry_of_validateReplyAttributes {kept : String × ReplyEntry} (hkept : kept ∈ attributes) :
    ∃ entry ∈ Json.entries members,
      (IsPlainName kept.1.toList ↔ ¬ EndsInLineFeed entry.1) ∧ isAttributeName kept.1 = true ∧
        ¬ IsManaged kept.1 ∧ checkEntry kept.1 entry.2 = .ok kept.2 := by
  obtain ⟨-, checked, hchecked, rfl⟩ := validateReplyAttributes_obj_iff.mp h
  obtain ⟨entry, hentry, hcheck⟩ := forall₂_mem_right hchecked (mem_updateWith_empty hkept)
  obtain ⟨hname, hfree, hnamed, hvalue⟩ := checkAttribute_eq_ok_iff.mp hcheck
  have hmanaged : ¬ IsManaged kept.1 := by
    rw [IsManaged, lower_of_keptName hfile hnamed]
    exact hfree
  exact ⟨entry, hentry, isPlainName_keptName_iff hfile hname hnamed,
    isAttributeName_keptName hfile hname hnamed, hmanaged, hvalue⟩

/-- Every name of the mapping is there in the result. -/
theorem name_of_validateReplyAttributes {entry : String × Json} (hentry : entry ∈ Json.entries members) :
    ∃ kept ∈ attributes, IsPlainName kept.1.toList ↔ ¬ EndsInLineFeed entry.1 := by
  obtain ⟨-, checked, hchecked, rfl⟩ := validateReplyAttributes_obj_iff.mp h
  obtain ⟨found, hfound, hcheck⟩ := forall₂_mem_left hchecked hentry
  obtain ⟨hname, -, hnamed, -⟩ := checkAttribute_eq_ok_iff.mp hcheck
  obtain ⟨value, hvalue⟩ := exists_mem_updateWith hfound
  exact ⟨_, hvalue, isPlainName_keptName_iff hfile hname hnamed⟩

theorem plain_iff_of_validateReplyAttributes {control : Char → Bool}
    (hvalues : ∀ kept ∈ attributes, kept.2.Plain control) :
    attributes.Plain control ↔ ∀ entry ∈ Json.entries members, ¬ EndsInLineFeed entry.1 := by
  constructor
  · intro hplain entry hentry
    obtain ⟨kept, hkept, hiff⟩ := name_of_validateReplyAttributes hfile h hentry
    exact hiff.mp (hplain kept hkept).1
  · intro hnames kept hkept
    obtain ⟨entry, hentry, hiff, -, hmanaged, -⟩ := entry_of_validateReplyAttributes hfile h hkept
    exact ⟨hiff.mpr (hnames entry hentry), hmanaged, hvalues kept hkept⟩

end

/-! ### The reply -/

/-- The names under which the reply carries the decision and the VLAN. -/
def ownNames : List String :=
  ["control:NACo-Decision", "Tunnel-Type", "Tunnel-Medium-Type", "Tunnel-Private-Group-Id"]

theorem get?_updateWith_of_not_mem {out : Dict String ReplyEntry}
    {attributes : List (String × ReplyEntry)} {name : String}
    (h : ∀ entry ∈ attributes, entry.1 ≠ name) :
    (updateWith out attributes).get? name = out.get? name := by
  induction attributes generalizing out with
  | nil => rfl
  | cons entry attributes ih =>
      obtain ⟨hentry, hrest⟩ := List.forall_mem_cons.mp h
      calc
        (updateWith out (entry :: attributes)).get? name =
            (updateWith (out.set entry.1 entry.2) attributes).get? name := rfl
        _ = (out.set entry.1 entry.2).get? name := ih hrest
        _ = out.get? name := by rw [Dict.get?_set, if_neg (Ne.symm hentry)]

/-- No attribute that passes is called like one of the reply's own. -/
theorem not_mem_ownNames {name : String} (hname : isAttributeName name = true)
    (hfree : ¬ IsManaged name) : name ∉ ownNames := by
  intro hmem
  simp only [ownNames, List.mem_cons, List.not_mem_nil, or_false] at hmem
  rcases hmem with rfl | rfl | rfl | rfl
  · exact absurd hname (by decide +kernel)
  all_goals exact hfree (.inl (by decide +kernel))

/-- A value of the mapping with a control character beyond ASCII. -/
def SomeC1 (members : List (String × Json)) : Prop :=
  ∃ entry ∈ Json.entries members, ¬ Json.LacksC1 entry.2

/-- The names and values of the result are plain unless a name ends in a line feed, and the decision
and the VLAN of the reply are its own. -/
theorem reply_attributes_plain_iff (members : List (String × Json))
    (dictionary : Option RadiusDictionary) (attributes : ReplyAttributes)
    (hfile : ∀ d ∈ dictionary, d.OfFile)
    (h : validateReplyAttributes (.obj members) dictionary = .ok attributes) :
    (attributes.Plain isAsciiControl ↔ ∀ entry ∈ Json.entries members, ¬ EndsInLineFeed entry.1) ∧
      (¬ SomeC1 members →
        (attributes.Plain isControl ↔ ∀ entry ∈ Json.entries members, ¬ EndsInLineFeed entry.1)) ∧
      ∀ decision, decision.replyAttributes = attributes → ∀ name ∈ ownNames, ∀ carried,
        (name, carried) ∈ authorizeReply decision ↔
          (name, carried) ∈ authorizeReply { decision with replyAttributes := [] } := by
  refine ⟨?_, ?_, ?_⟩
  · refine plain_iff_of_validateReplyAttributes hfile h fun kept hkept => ?_
    obtain ⟨entry, -, -, -, -, hvalue⟩ := entry_of_validateReplyAttributes hfile h hkept
    exact (plain_of_checkEntry hvalue).1
  · intro hlacks
    refine plain_iff_of_validateReplyAttributes hfile h fun kept hkept => ?_
    obtain ⟨entry, hentry, -, -, -, hvalue⟩ := entry_of_validateReplyAttributes hfile h hkept
    exact (plain_of_checkEntry hvalue).2 (not_not.mp fun hc1 => hlacks ⟨entry, hentry, hc1⟩)
  · rintro decision rfl name hown carried
    have hother : ∀ kept ∈ decision.replyAttributes, kept.1 ≠ name := by
      rintro kept hkept rfl
      obtain ⟨-, -, -, hname, hfree, -⟩ := entry_of_validateReplyAttributes hfile h hkept
      exact not_mem_ownNames hname hfree hown
    have hget : (authorizeOut decision).get? name =
        (authorizeOut { decision with replyAttributes := [] }).get? name := by
      unfold authorizeOut
      cases haccepted : decision.accepted with
      | false => simp [Decision.accepted, ← haccepted]
      | true =>
          have haccepted' : ({ decision with replyAttributes := [] } : Decision).accepted = true :=
            haccepted
          simp only [haccepted', Bool.not_true, Bool.false_eq_true, if_false]
          rw [get?_updateWith_of_not_mem hother]
          rfl
    have hmem : ∀ d : Decision, (name, carried) ∈ authorizeReply d ↔
        carried.doXlat = false ∧ (authorizeOut d).get? name = some carried.value := by
      intro d
      rw [Dict.get?_eq_some_iff, authorizeReply, List.mem_map]
      constructor
      · rintro ⟨entry, hentry, heq⟩
        cases heq
        exact ⟨rfl, hentry⟩
      · rintro ⟨hxlat, hentry⟩
        refine ⟨_, hentry, ?_⟩
        rw [← hxlat]
    rw [hmem, hmem, hget]

/-- A mapping that a stored policy can hold. -/
def filterMembers : List (String × Json) :=
  [("Filter-Id", .str "staff"), ("Session-Timeout", .int 3600)]

theorem reply_attributes_plain_filter :
    (∀ d ∈ (none : Option RadiusDictionary), d.OfFile) ∧
      ReplyAttributes.Plain isAsciiControl
        [("Filter-Id", .one (.text "staff")), ("Session-Timeout", .one (.int 3600))] := by
  refine ⟨by simp, ?_⟩
  refine (reply_attributes_plain_iff filterMembers none _ (by simp) rfl).1.mpr ?_
  intro entry hentry
  have hentries : Json.entries filterMembers = filterMembers := rfl
  rw [hentries] at hentry
  simp only [filterMembers, List.mem_cons, List.not_mem_nil, or_false] at hentry
  rcases hentry with rfl | rfl <;> simp [EndsInLineFeed]

/-- `Tunnel-Type` with a line feed is neither a managed name nor a plain one. -/
theorem tunnel_type_line_feed_passes :
    ¬ ∀ (members : List (String × Json)) (dictionary : Option RadiusDictionary)
        (attributes : ReplyAttributes), (∀ d ∈ dictionary, d.OfFile) →
      validateReplyAttributes (.obj members) dictionary = .ok attributes →
        attributes.Plain isAsciiControl := by
  intro hall
  have hpass := hall [("Tunnel-Type\n", .str "VLAN")] none
    [("Tunnel-Type\n", .one (.text "VLAN"))] (by simp) rfl
  have hplain := (hpass _ List.mem_cons_self).1
  have hfeed := (isPlainName_iff.mp hplain).2.1 '\n' (by simp)
  exact absurd hfeed (by decide)

end Naco
