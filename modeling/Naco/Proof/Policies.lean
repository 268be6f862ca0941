import Naco.Proof.Attributes
import Naco.Proof.Engine
import Naco.Proof.Netutils
import Naco.Proof.Routes
import Naco.Routes.Policies

/-!
# Stored policies

A policy is stored as its validation left it and validated again at every decision. Normalisation is a
fixpoint: what a condition dumps is read back as that condition, and a reply attribute under its stored
name as that attribute. So no call of the policy API can leave a row that does not compile.

Rows that the API did not write are read by the same code, which takes a missing value for an empty one:
null conditions hold always, and a falsy value of the other column stands for no attributes.
-/

namespace Naco

open Py

/-! ### Fields -/

theorem validateItems_eq_ok_iff {α : Type} {validate : Json → Validated α} {items : List Json}
    {values : List α} (i : Nat) :
    validateItems validate i items = .ok values ↔
      List.Forall₂ (fun item value => validate item = .ok value) items values := by
  have hunder : ∀ {segment : Segment} {result : Validated α} {value : α},
      under segment result = .ok value ↔ result = .ok value := by
    intro segment result value
    cases result <;> simp [under, Except.mapError]
  induction items generalizing values i with
  | nil => cases values <;> simp [validateItems]
  | cons item items ih =>
      simp only [validateItems, bind_eq_ok_iff, hunder]
      constructor
      · rintro ⟨head, hhead, tail, htail, h⟩
        cases h
        exact .cons hhead ((ih _).mp htail)
      · intro h
        cases h with
        | cons hhead htail => exact ⟨_, hhead, _, (ih _).mpr htail, rfl⟩

theorem validateLiteral_name {α : Type} {options : List α} {nameOf : α → String}
    (hinj : ∀ a ∈ options, ∀ b ∈ options, nameOf a = nameOf b → a = b) {a : α} (ha : a ∈ options) :
    validateLiteral options nameOf (.str (nameOf a)) = .ok ⟨a, ha⟩ := by
  have hfind : (options.attach.find? fun b => nameOf b.val = nameOf a) = some ⟨a, ha⟩ := by
    have hsome : (options.attach.find? fun b => nameOf b.val = nameOf a).isSome := by
      rw [List.find?_isSome]
      exact ⟨⟨a, ha⟩, List.mem_attach _ _, by simp⟩
    obtain ⟨found, hfound⟩ := Option.isSome_iff_exists.mp hsome
    have hname : nameOf found.val = nameOf a := by simpa using List.find?_some hfound
    rw [hfound]
    exact congrArg some (Subtype.ext (hinj _ found.property _ ha hname))
  simp only [validateLiteral, hfind]

theorem validateNonempty_names {α : Type} {options : List α} {nameOf : α → String}
    (hinj : ∀ a ∈ options, ∀ b ∈ options, nameOf a = nameOf b → a = b) (hall : ∀ a, a ∈ options)
    {values : List α} (hne : values ≠ []) :
    validateNonempty (fun item => (validateLiteral options nameOf item).map (·.val))
        (.arr (values.map fun value => .str (nameOf value))) = .ok ⟨values, hne⟩ := by
  have hitems : validateItems (fun item => (validateLiteral options nameOf item).map (·.val)) 0
      (values.map fun value => .str (nameOf value)) = .ok values := by
    rw [validateItems_eq_ok_iff, List.forall₂_map_left_iff, List.forall₂_same]
    intro value _
    rw [validateLiteral_name hinj (hall value)]
    rfl
  simp only [validateNonempty, hitems, bind, Except.bind]
  rw [dif_pos hne]
  rfl

theorem validateOperand_list (items : List String) :
    validateOperand (.arr (items.map .str)) = .ok (.list items) := by
  have hitems : ((items.map Json.str).mapM fun item => (validateStr item).toOption) = some items := by
    induction items with
    | nil => rfl
    | cons item items ih =>
        rw [List.map_cons, List.mapM_cons, ih]
        rfl
  simp only [validateOperand, hitems]

theorem forbidExtra_of_forall {members : List (String × Json)} {fields : List String}
    (h : ∀ entry ∈ members, entry.1 ∈ fields) : forbidExtra members fields = .ok () := by
  have hnone : (Json.entries members).find? (·.1 ∉ fields) = none := by
    rw [List.find?_eq_none]
    intro entry hentry
    obtain ⟨name, hname, hmember⟩ := List.mem_filterMap.mp hentry
    obtain ⟨value, -, rfl⟩ := Option.map_eq_some_iff.mp hmember
    obtain ⟨given, hgiven, rfl⟩ := List.mem_map.mp (List.mem_eraseDups.mp hname)
    simpa using h given hgiven
  unfold forbidExtra
  split
  · rfl
  · next extra hextra => rw [hnone] at hextra; cases hextra

/-! ### Texts -/

theorem textOfString_text (value : Text) (what : String) : textOfString value.val what = .ok value := by
  obtain ⟨s, hstrip, hne, hlength⟩ := value
  simp only [textOfString, hstrip, dif_neg hne, dif_pos hlength]

theorem textItems_texts (values : List Text) (what : String) :
    (textItems what (values.map (·.val))).map (·.val) = .ok values := by
  induction values with
  | nil => rfl
  | cons value values ih =>
      rw [List.map_cons, textItems, textOfString_text]
      cases hrest : textItems what (values.map (·.val)) with
      | error error =>
          rw [hrest] at ih
          cases ih
      | ok texts =>
          rw [hrest] at ih
          have htexts : texts.val = values := Except.ok.inj ih
          simp [bind, Except.bind, pure, Except.pure, Except.map, htexts]

theorem textList_texts (values : TextList) (what : String) :
    textList (.list (values.val.map (·.val))) what = .ok values := by
  obtain ⟨values, hne, hlength⟩ := values
  have hne' : values.map (·.val) ≠ [] := by rwa [ne_eq, List.map_eq_nil_iff]
  have hlength' : (values.map (·.val)).length ≤ maxItems := by simpa using hlength
  have hitems := textItems_texts values what
  simp only [textList, dif_neg hne', dif_pos hlength']
  cases htexts : textItems what (values.map (·.val)) with
  | error error =>
      rw [htexts] at hitems
      cases hitems
  | ok texts =>
      rw [htexts] at hitems
      have hvalues : texts.val = values := Except.ok.inj hitems
      simp [bind, Except.bind, pure, Except.pure, hvalues]

theorem isText_mac (mac : Mac) : IsText mac.val := by
  obtain ⟨mac, raw, hmac⟩ := mac
  obtain ⟨-, hlength, hstrip⟩ := normalizeMac_of_eq_some hmac
  refine ⟨hstrip, ?_, ?_⟩
  · rintro rfl
    simp at hlength
  · rw [hlength]
    decide

/-- A MAC address as a text. -/
def Mac.text (mac : Mac) : Text :=
  ⟨mac.val, isText_mac mac⟩

theorem macOfText_text (mac : Mac) : macOfText (Mac.text mac) = .ok mac := by
  obtain ⟨mac, raw, hmac⟩ := mac
  have hself := (normalizeMac_of_eq_some hmac).1
  unfold macOfText
  split
  · next found hfound =>
      obtain rfl : mac = found := Option.some.inj (hself.symm.trans hfound)
      rfl
  · next hnone => cases hself.symm.trans hnone

/-! ### MAC patterns -/

/-- The characters of a stored pattern. -/
def patternChars : List Char :=
  "0123456789abcdef:*?".toList

/-- What `MacCond` stores for a pattern. -/
def IsMacPattern (pattern : String) : Prop :=
  pattern ≠ "" ∧ pattern.toList.length ≤ maxText ∧ ∀ c ∈ pattern.toList, c ∈ patternChars

theorem patternChars_plain : ∀ c ∈ patternChars, isAscii c = true ∧ isSpace c = false ∧ c.toLower = c ∧
    c ≠ '-' ∧ c ∈ "0123456789abcdef:*?-".toList :=
  forall_mem_of_all (by decide +kernel)

/-- Lower-casing lengthens a text only by characters that no pattern has. -/
theorem length_lowerAfter {allowed : List Char} (hdot : '\u0307' ∉ allowed) {cs before : List Char}
    (h : ∀ c ∈ lowerAfter before cs, c ∈ allowed) : (lowerAfter before cs).length = cs.length := by
  induction cs generalizing before with
  | nil => rfl
  | cons c cs ih =>
      rw [lowerAfter] at h ⊢
      rw [List.length_append, List.length_cons, ih fun d hd => h d (List.mem_append_right _ hd),
        Nat.add_comm]
      congr 1
      split
      · rfl
      · next hsigma =>
          rw [if_neg hsigma] at h
          unfold lowerChar at h ⊢
          split
          · rfl
          · next hascii =>
              rw [if_neg hascii] at h
              split
              · next hdotted =>
                  rw [if_pos hdotted] at h
                  exact absurd (h '\u0307' (by simp)) hdot
              · split <;> rfl

theorem isMacPattern_of_shape {value : Text}
    (h : (lower value.val).toList.any (· ∉ "0123456789abcdef:*?-".toList) = false) :
    IsMacPattern
      (String.ofList ((lower value.val).toList.map fun c => if c = '-' then ':' else c)) := by
  have hchars : ∀ c ∈ (lower value.val).toList, c ∈ "0123456789abcdef:*?-".toList := by
    intro c hc
    have hallowed := List.any_eq_false.mp h c hc
    rwa [decide_eq_true_eq, not_not] at hallowed
  have hlength : (lower value.val).toList.length = value.val.toList.length := by
    rw [lower, String.toList_ofList] at hchars ⊢
    exact length_lowerAfter (by decide +kernel) hchars
  have hreplace : ∀ c ∈ "0123456789abcdef:*?-".toList,
      (if c = '-' then ':' else c) ∈ patternChars :=
    forall_mem_of_all (by decide +kernel)
  refine ⟨?_, ?_, ?_⟩
  · rw [← String.toList_eq_nil_iff.ne, String.toList_ofList, ne_eq, List.map_eq_nil_iff,
      ← List.length_eq_zero_iff, hlength, List.length_eq_zero_iff, String.toList_eq_nil_iff]
    exact value.property.2.1
  · rw [String.toList_ofList, List.length_map, hlength]
    exact value.property.2.2
  · rw [String.toList_ofList]
    intro c hc
    obtain ⟨d, hd, rfl⟩ := List.mem_map.mp hc
    exact hreplace d (hchars d hd)

/-- A stored pattern is its own normal form. -/
theorem shape_macPattern {pattern : String} (h : IsMacPattern pattern) :
    MacTest.shape .matching (.str pattern) = .ok (.matching pattern) := by
  obtain ⟨hne, hlength, hchars⟩ := h
  have hplain := fun c hc => patternChars_plain c (hchars c hc)
  have hstrip : strip pattern = pattern := strip_of_forall fun c hc => (hplain c hc).2.1
  have hascii : isAsciiText pattern = true := List.all_eq_true.mpr fun c hc => (hplain c hc).1
  have hlower : lower pattern = pattern := by
    rw [← String.toList_inj, toList_lower_of_isAscii hascii]
    exact (List.map_congr_left fun c hc => (hplain c hc).2.2.1).trans (List.map_id _)
  have htext : text (.str pattern) "mac pattern" = .ok ⟨pattern, hstrip, hne, hlength⟩ :=
    textOfString_text ⟨pattern, hstrip, hne, hlength⟩ _
  have hallowed : pattern.toList.any (· ∉ "0123456789abcdef:*?-".toList) = false := by
    rw [List.any_eq_false]
    intro c hc
    rw [decide_eq_true_eq, not_not]
    exact (hplain c hc).2.2.2.2
  have hreplace : (pattern.toList.map fun c => if c = '-' then ':' else c) = pattern.toList := by
    refine (List.map_congr_left fun c hc => ?_).trans (List.map_id _)
    rw [if_neg (hplain c hc).2.2.2.1]
    rfl
  simp only [MacTest.shape, htext, bind, Except.bind, hlower, hallowed, hreplace,
    String.ofList_toList]
  rfl

/-! ### Conditions -/

/-- What `MacCond` stores. -/
def MacTest.Stored : MacTest → Prop
  | .equals _ => True
  | .isIn values => values ≠ [] ∧ values.length ≤ maxItems
  | .matching pattern => IsMacPattern pattern

theorem shape_macTest {test : MacTest} (h : test.Stored) :
    ∃ op : MacOp, test.dump.1 = op.name ∧
      (validateOperand test.dump.2 >>= MacTest.shape op) = .ok test := by
  cases test with
  | equals mac =>
      refine ⟨.equals, rfl, ?_⟩
      have htext : text (.str mac.val) "mac.value" = .ok (Mac.text mac) :=
        textOfString_text (Mac.text mac) _
      simp only [MacTest.dump, validateOperand, bind, Except.bind, MacTest.shape, htext,
        macOfText_text]
      rfl
  | isIn macs =>
      refine ⟨.isIn, rfl, ?_⟩
      have hoperand : validateOperand (.arr (macs.map fun mac => .str mac.val)) =
          .ok (.list (macs.map (·.val))) := by
        rw [← validateOperand_list, List.map_map]
        rfl
      obtain ⟨hne, hlength⟩ : macs ≠ [] ∧ macs.length ≤ maxItems := h
      have hshape : macs.map Mac.text ≠ [] ∧ (macs.map Mac.text).length ≤ maxItems := by
        rw [ne_eq, List.map_eq_nil_iff, List.length_map]
        exact ⟨hne, hlength⟩
      have htexts : textList (.list (macs.map (·.val))) "mac.value" = .ok ⟨_, hshape⟩ := by
        rw [← textList_texts, List.map_map]
        rfl
      have hmacs : (macs.map Mac.text).mapM macOfText = .ok macs := by
        rw [mapM_eq_ok_iff, List.forall₂_map_left_iff, List.forall₂_same]
        exact fun mac _ => macOfText_text mac
      simp only [MacTest.dump, hoperand, bind, Except.bind, MacTest.shape, htexts, hmacs]
      rfl
  | matching pattern =>
      refine ⟨.matching, rfl, ?_⟩
      have hpattern : IsMacPattern pattern := h
      simp only [MacTest.dump, validateOperand, bind, Except.bind, shape_macPattern hpattern]

theorem stored_of_shape {op : MacOp} {value : Operand} {test : MacTest}
    (h : MacTest.shape op value = .ok test) : test.Stored := by
  cases op with
  | equals =>
      simp only [MacTest.shape, bind_eq_ok_iff] at h
      obtain ⟨item, -, mac, -, h⟩ := h
      cases h
      trivial
  | isIn =>
      simp only [MacTest.shape, bind_eq_ok_iff] at h
      obtain ⟨items, -, macs, hmacs, h⟩ := h
      cases h
      have hlength := (mapM_eq_ok_iff.mp hmacs).length_eq
      refine ⟨?_, hlength ▸ items.property.2⟩
      rintro rfl
      exact items.property.1 (List.length_eq_zero_iff.mp hlength)
  | matching =>
      simp only [MacTest.shape, bind_eq_ok_iff] at h
      obtain ⟨item, -, h⟩ := h
      split at h
      · cases h
      · next hallowed =>
          cases h
          exact isMacPattern_of_shape (Bool.eq_false_iff.mpr hallowed)

theorem shape_textTest (test : TextTest) (what : String) :
    (validateOperand test.dump >>= fun value => TextTest.shape test.op value what) =
      .ok ⟨test, rfl⟩ := by
  have hlist : ∀ values : TextList, validateOperand (.arr (values.val.map fun v => .str v.val)) =
      .ok (.list (values.val.map (·.val))) := by
    intro values
    rw [← validateOperand_list, List.map_map]
    rfl
  cases test with
  | equals value =>
      simp [TextTest.dump, TextTest.op, TextTest.shape, validateOperand, bind, Except.bind, text,
        textOfString_text, Except.map]
  | notEquals value =>
      simp [TextTest.dump, TextTest.op, TextTest.shape, validateOperand, bind, Except.bind, text,
        textOfString_text, Except.map]
  | matching value =>
      simp [TextTest.dump, TextTest.op, TextTest.shape, validateOperand, bind, Except.bind, text,
        textOfString_text, Except.map]
  | isIn values =>
      simp only [TextTest.dump, hlist, TextTest.op, TextTest.shape, bind, Except.bind,
        textList_texts, Except.map]
  | notIn values =>
      simp only [TextTest.dump, hlist, TextTest.op, TextTest.shape, bind, Except.bind,
        textList_texts, Except.map]

/-- What `validateCondition` returns. -/
def Condition.Stored : Condition → Prop
  | .mac test => test.Stored
  | _ => True

section Members

variable {α : Type} {members : List (String × Json)} {name : String} {value : Json}

theorem requiredField_of_member {validate : Json → Validated α} {result : α}
    (hmember : Json.member members name = some value) (hvalue : validate value = .ok result) :
    requiredField members name validate = .ok result := by
  simp only [requiredField, hmember, hvalue]
  rfl

theorem defaultField_of_member {default result : α} {validate : Json → Validated α}
    (hmember : Json.member members name = some value) (hvalue : validate value = .ok result) :
    defaultField members name default validate = .ok result := by
  simp only [defaultField, hmember, hvalue]
  rfl

theorem validateOnlyOp_of_member (hmember : Json.member members "op" = some (.str name)) :
    validateOnlyOp members name = .ok () := by
  refine defaultField_of_member hmember ?_
  simp [validateLiteral, Except.map]

end Members

theorem TextOp.name_injective : Function.Injective TextOp.name := by
  intro a b h
  cases a <;> cases b <;> first | rfl | exact absurd h (by decide)

theorem MacOp.name_injective : Function.Injective MacOp.name := by
  intro a b h
  cases a <;> cases b <;> first | rfl | exact absurd h (by decide)

theorem DeviceState.name_injective : Function.Injective DeviceState.name := by
  intro a b h
  cases a <;> cases b <;> first | rfl | exact absurd h (by decide)

theorem Day.name_injective : Function.Injective Day.name := by
  intro a b h
  cases a <;> cases b <;> first | rfl | exact absurd h (by decide)

theorem validateText_dump (field : TextField) (test : TextTest) (allowed : test.op ∈ field.cond.ops) :
    validateText field [("op", .str test.op.name), ("value", test.dump), ("type", .str field.cond.type)] =
      .ok (.text field test allowed) := by
  obtain ⟨operand, hoperand, hshape⟩ := bind_eq_ok_iff.mp (shape_textTest test (field.cond.type ++ ".value"))
  have hop : requiredField [("op", .str test.op.name), ("value", test.dump),
      ("type", .str field.cond.type)] "op" (validateLiteral field.cond.ops TextOp.name) =
        .ok ⟨test.op, allowed⟩ :=
    requiredField_of_member (by simp [Json.member])
      (validateLiteral_name (fun a _ b _ h => TextOp.name_injective h) allowed)
  have hvalue : requiredField [("op", .str test.op.name), ("value", test.dump),
      ("type", .str field.cond.type)] "value" validateOperand = .ok operand :=
    requiredField_of_member (by simp [Json.member]) hoperand
  have hextra : forbidExtra [("op", .str test.op.name), ("value", test.dump),
      ("type", .str field.cond.type)] ["op", "value", "type"] = .ok () :=
    forbidExtra_of_forall (by simp)
  simp only [validateText, hop, hvalue, hextra, hshape, bind, Except.bind, pure, Except.pure]

theorem validateMac_dump {test : MacTest} (h : test.Stored) :
    validateMac [("type", .str "mac"), ("op", .str test.dump.1), ("value", test.dump.2)] =
      .ok (.mac test) := by
  obtain ⟨op, hname, hoperand⟩ := shape_macTest h
  obtain ⟨operand, hoperand, hshape⟩ := bind_eq_ok_iff.mp hoperand
  have hmem : op ∈ [MacOp.equals, .isIn, .matching] := by cases op <;> simp
  rw [hname]
  have hop : requiredField [("type", .str "mac"), ("op", .str op.name), ("value", test.dump.2)] "op"
      (validateLiteral [MacOp.equals, .isIn, .matching] MacOp.name) = .ok ⟨op, hmem⟩ :=
    requiredField_of_member (by simp [Json.member])
      (validateLiteral_name (fun a _ b _ h => MacOp.name_injective h) hmem)
  have hvalue : requiredField [("type", .str "mac"), ("op", .str op.name), ("value", test.dump.2)]
      "value" validateOperand = .ok operand :=
    requiredField_of_member (by simp [Json.member]) hoperand
  have hextra : forbidExtra [("type", .str "mac"), ("op", .str op.name), ("value", test.dump.2)]
      ["type", "op", "value"] = .ok () :=
    forbidExtra_of_forall (by simp)
  simp only [validateMac, hop, hvalue, hextra, hshape, bind, Except.bind, pure, Except.pure]

/-- The members of a condition that is one list of names. -/
def listMembers (tag : String) (value : Json) : List (String × Json) :=
  [("type", .str tag), ("op", .str "in"), ("value", value)]

theorem listMembers_fields (tag : String) (value : Json) :
    validateOnlyOp (listMembers tag value) "in" = .ok () ∧
      Json.member (listMembers tag value) "value" = some value ∧
        forbidExtra (listMembers tag value) ["type", "op", "value"] = .ok () :=
  ⟨validateOnlyOp_of_member (by simp [Json.member, listMembers]), by simp [Json.member, listMembers],
    forbidExtra_of_forall (by simp [listMembers])⟩

theorem validateAuthMethod_dump {value : List AuthMethod} (hne : value ≠ []) :
    validateAuthMethod (listMembers "auth_method" (.arr (value.map fun v => .str v.name))) =
      .ok (.authMethod value hne) := by
  obtain ⟨hop, hmember, hextra⟩ :=
    listMembers_fields "auth_method" (.arr (value.map fun v => .str v.name))
  have hvalue := requiredField_of_member hmember
    (validateNonempty_names (fun a _ b _ h => AuthMethod.name_injective h)
      (fun a => by cases a <;> decide : ∀ a, a ∈ AuthMethod.all) hne)
  simp only [validateAuthMethod, hop, hvalue, hextra, bind, Except.bind, pure, Except.pure]

theorem validateDeviceStatus_dump {value : List DeviceState} (hne : value ≠ []) :
    validateDeviceStatus (listMembers "device_status" (.arr (value.map fun v => .str v.name))) =
      .ok (.deviceStatus value hne) := by
  obtain ⟨hop, hmember, hextra⟩ :=
    listMembers_fields "device_status" (.arr (value.map fun v => .str v.name))
  have hvalue := requiredField_of_member hmember
    (validateNonempty_names (fun a _ b _ h => DeviceState.name_injective h)
      (fun a => by cases a <;> decide : ∀ a, a ∈ DeviceState.all) hne)
  simp only [validateDeviceStatus, hop, hvalue, hextra, bind, Except.bind, pure, Except.pure]

theorem validateHhmm_val (v : Hhmm) : validateHhmm (.str v.val) = .ok v := by
  simp only [validateHhmm, validateStr, bind, Except.bind]
  rw [dif_pos v.property]
  rfl

theorem validateTime_dump (cond : TimeCond) :
    validateTime [("type", .str "time"), ("op", .str "between"), ("start", .str cond.start.val),
      ("end", .str cond.stop.val), ("days", .arr (cond.days.map fun day => .str day.name))] =
      .ok (.time cond) := by
  generalize hmembers : [("type", Json.str "time"), ("op", .str "between"),
    ("start", .str cond.start.val), ("end", .str cond.stop.val),
    ("days", .arr (cond.days.map fun day => .str day.name))] = members
  have hop : validateOnlyOp members "between" = .ok () :=
    validateOnlyOp_of_member (by simp [← hmembers, Json.member])
  have hstart : requiredField members "start" validateHhmm = .ok cond.start :=
    requiredField_of_member (by simp [← hmembers, Json.member])
      (validateHhmm_val cond.start)
  have hstop : requiredField members "end" validateHhmm = .ok cond.stop :=
    requiredField_of_member (by simp [← hmembers, Json.member])
      (validateHhmm_val cond.stop)
  have hdays := @defaultField_of_member _ members "days" _ ⟨Day.all, by decide⟩ _ _
    (by simp [← hmembers, Json.member])
    (validateNonempty_names (fun a _ b _ h => Day.name_injective h)
      (fun a => by cases a <;> decide : ∀ a, a ∈ Day.all) cond.days_ne_nil)
  have hextra : forbidExtra members ["type", "op", "start", "end", "days"] = .ok () :=
    forbidExtra_of_forall (by simp [← hmembers])
  simp only [validateTime, hop, hstart, hstop, hdays, hextra, bind, Except.bind, pure, Except.pure]

theorem validateCondition_of_model {members : List (String × Json)} (tag : String)
    {validate : List (String × Json) → Validated Condition} {cond : Condition}
    (htag : Json.member members "type" = some (.str tag))
    (hmodel : conditionModels.lookup tag = some validate) (h : validate members = .ok cond) :
    validateCondition (.obj members) = .ok cond := by
  simp only [validateCondition, htag, hmodel, h]
  rfl

/-- What a stored condition dumps is read back as that condition. -/
theorem validateCondition_dump {cond : Condition} (h : cond.Stored) :
    validateCondition cond.dump = .ok cond := by
  cases cond with
  | always => exact validateCondition_of_model "always" (by simp [Json.member]) rfl rfl
  | text field test allowed =>
      refine validateCondition_of_model field.cond.type (by simp [Json.member]) ?_
        (validateText_dump field test allowed)
      cases field <;> rfl
  | authMethod value hne =>
      exact validateCondition_of_model "auth_method" (by simp [Json.member]) rfl
        (validateAuthMethod_dump hne)
  | deviceStatus value hne =>
      exact validateCondition_of_model "device_status" (by simp [Json.member]) rfl
        (validateDeviceStatus_dump hne)
  | mac test => exact validateCondition_of_model "mac" (by simp [Json.member]) rfl (validateMac_dump h)
  | time cond =>
      exact validateCondition_of_model "time" (by simp [Json.member]) rfl (validateTime_dump cond)

theorem stored_of_validateText {field : TextField} {members : List (String × Json)} {cond : Condition}
    (h : validateText field members = .ok cond) : cond.Stored := by
  simp only [validateText, bind_eq_ok_iff] at h
  obtain ⟨_, _, _, _, _, _, _, _, h⟩ := h
  cases h
  trivial

theorem stored_of_validateMac {members : List (String × Json)} {cond : Condition}
    (h : validateMac members = .ok cond) : cond.Stored := by
  simp only [validateMac, bind_eq_ok_iff] at h
  obtain ⟨_, _, _, _, _, _, test, hshape, h⟩ := h
  cases h
  exact stored_of_shape hshape

/-- Each of the models returns conditions that can be stored. -/
theorem stored_of_model {tag : String} {validate : List (String × Json) → Validated Condition}
    (hmodel : (tag, validate) ∈ conditionModels) {members : List (String × Json)} {cond : Condition}
    (h : validate members = .ok cond) : cond.Stored := by
  simp only [conditionModels, List.mem_cons, List.not_mem_nil, or_false, Prod.mk.injEq] at hmodel
  rcases hmodel with ⟨-, rfl⟩ | ⟨-, rfl⟩ | ⟨-, rfl⟩ | ⟨-, rfl⟩ | ⟨-, rfl⟩ | ⟨-, rfl⟩ | ⟨-, rfl⟩ |
    ⟨-, rfl⟩ | ⟨-, rfl⟩ | ⟨-, rfl⟩ | ⟨-, rfl⟩
  · simp only [validateAlways, bind_eq_ok_iff] at h
    obtain ⟨_, _, h⟩ := h
    cases h
    trivial
  · exact stored_of_validateText h
  · exact stored_of_validateText h
  · simp only [validateAuthMethod, bind_eq_ok_iff] at h
    obtain ⟨_, _, _, _, _, _, h⟩ := h
    cases h
    trivial
  · simp only [validateDeviceStatus, bind_eq_ok_iff] at h
    obtain ⟨_, _, _, _, _, _, h⟩ := h
    cases h
    trivial
  · exact stored_of_validateText h
  · exact stored_of_validateMac h
  · exact stored_of_validateText h
  · exact stored_of_validateText h
  · exact stored_of_validateText h
  · simp only [validateTime, bind_eq_ok_iff] at h
    obtain ⟨_, _, _, _, _, _, _, _, _, _, h⟩ := h
    cases h
    trivial

theorem stored_of_validateCondition {raw : Json} {cond : Condition}
    (h : validateCondition raw = .ok cond) : cond.Stored := by
  unfold validateCondition at h
  split at h
  · split at h
    · cases h
    · split at h
      · next members _ tag _ _ validate hmodel =>
          obtain ⟨before, after, hsplit, -⟩ := List.lookup_eq_some_iff.mp hmodel
          have hmem : (tag, validate) ∈ conditionModels := by
            rw [hsplit]
            exact List.mem_append_right _ List.mem_cons_self
          cases hvalid : validate members with
          | error error =>
              rw [hvalid] at h
              cases h
          | ok found =>
              rw [hvalid] at h
              cases h
              exact stored_of_model hmem hvalid
      · cases h
    · cases h
  · cases h

/-! ### The two columns -/

theorem parseConditions_arr_iff {items : List Json} {conditions : List Condition} :
    parseConditions (.arr items) = .ok conditions ↔
      items.length ≤ maxConditions ∧
        List.Forall₂ (fun item cond => validateCondition item = .ok cond) items conditions := by
  simp only [parseConditions]
  split
  · next hmany =>
      refine iff_of_false (by simp) ?_
      rintro ⟨hfew, -⟩
      omega
  · next hfew =>
      rw [← validateItems_eq_ok_iff 0]
      cases validateItems validateCondition 0 items with
      | error error => simp [Except.mapError]
      | ok found => simp [Except.mapError, not_lt.mp hfew]

/-- Parsing what was stored returns the conditions that were. -/
theorem parseConditions_dump {items : List Json} {conditions : List Condition}
    (h : parseConditions (.arr items) = .ok conditions) :
    parseConditions (dumpConditions conditions) = .ok conditions := by
  obtain ⟨hfew, hitems⟩ := parseConditions_arr_iff.mp h
  refine parseConditions_arr_iff.mpr ⟨?_, ?_⟩
  · rw [List.length_map, ← hitems.length_eq]
    exact hfew
  · rw [List.forall₂_map_left_iff, List.forall₂_same]
    intro cond hcond
    obtain ⟨item, -, hitem⟩ := forall₂_mem_right hitems hcond
    exact validateCondition_dump (stored_of_validateCondition hitem)

theorem checkValue_toJson {name stored : String} {raw : Json} {value : ReplyValue}
    (h : checkValue name raw = .ok value) : checkValue stored value.toJson = .ok value := by
  cases raw with
  | int n =>
      simp only [checkValue] at h
      split at h
      · next hrange =>
          cases h
          have hcast : ((n.toNat : Nat) : Int) = n := Int.toNat_of_nonneg hrange.1
          simp only [ReplyValue.toJson, checkValue, hcast, if_pos hrange]
      · cases h
  | str s =>
      have hsame : checkValue name (.str s) = .ok (.text s) := by
        simp only [checkValue] at h ⊢
        split_ifs at h ⊢
        rfl
      cases hsame.symm.trans h
      simp only [ReplyValue.toJson]
      simp only [checkValue] at hsame ⊢
      split_ifs at hsame ⊢
      rfl
  | _ => cases h

theorem checkEntry_toJson {name stored : String} {raw : Json} {entry : ReplyEntry}
    (h : checkEntry name raw = .ok entry) : checkEntry stored entry.toJson = .ok entry := by
  cases raw with
  | arr raws =>
      simp only [checkEntry] at h
      split at h
      · next hcount =>
          obtain ⟨values, hvalues, h⟩ := bind_eq_ok_iff.mp h
          cases h
          have hpairs := mapM_eq_ok_iff.mp hvalues
          have hstored : (values.map ReplyValue.toJson).mapM (checkValue stored) = .ok values := by
            rw [mapM_eq_ok_iff, List.forall₂_map_left_iff, List.forall₂_same]
            intro value hvalue
            obtain ⟨raw, -, hraw⟩ := forall₂_mem_right hpairs hvalue
            exact checkValue_toJson hraw
          rw [hpairs.length_eq] at hcount
          simp only [ReplyEntry.toJson, checkEntry, List.length_map, if_pos hcount, hstored]
          rfl
      · cases h
  | _ =>
      simp only [checkEntry] at h
      obtain ⟨value, hvalue, h⟩ := bind_eq_ok_iff.mp h
      cases h
      have hstored := @checkValue_toJson _ stored _ _ hvalue
      cases value <;> simp only [ReplyEntry.toJson, ReplyValue.toJson, checkEntry] at hstored ⊢ <;>
        rw [hstored] <;> rfl

theorem eraseDups_of_nodup {names : List String} (h : names.Nodup) : names.eraseDups = names := by
  induction names with
  | nil => rfl
  | cons name names ih =>
      obtain ⟨hfresh, hnames⟩ := List.nodup_cons.mp h
      have hfilter : names.filter (fun other => !other == name) = names := by
        rw [List.filter_eq_self]
        intro other hother
        simpa using fun heq : other = name => hfresh (heq ▸ hother)
      rw [List.eraseDups_cons, hfilter, ih hnames]

theorem entries_of_nodup {members : List (String × Json)} (h : (members.map (·.1)).Nodup) :
    Json.entries members = members := by
  have hmember : ∀ entry ∈ members, Json.member members entry.1 = some entry.2 := by
    intro entry hentry
    have hsome : (members.reverse.find? (·.1 = entry.1)).isSome := by
      rw [List.find?_isSome]
      exact ⟨entry, List.mem_reverse.mpr hentry, by simp⟩
    obtain ⟨found, hfound⟩ := Option.isSome_iff_exists.mp hsome
    have hname : found.1 = entry.1 := by simpa using List.find?_some hfound
    have hmem := List.mem_reverse.mp (List.mem_of_find?_eq_some hfound)
    rw [Json.member, hfound, List.inj_on_of_nodup_map h hmem hentry hname]
    rfl
  rw [Json.entries, eraseDups_of_nodup h, List.filterMap_map]
  calc
    members.filterMap ((fun name => (Json.member members name).map (name, ·)) ∘ (·.1)) =
        members.filterMap some := by
      refine List.filterMap_congr fun entry hentry => ?_
      rw [Function.comp_apply, hmember entry hentry]
      rfl
    _ = members := List.filterMap_some

/-- The stored attributes pass again, without the dictionary, and as they are. -/
theorem validateReplyAttributes_dump {members : List (String × Json)}
    {dictionary : Option RadiusDictionary} {attributes : ReplyAttributes}
    (hfile : ∀ d ∈ dictionary, d.OfFile)
    (h : validateReplyAttributes (.obj members) dictionary = .ok attributes) :
    validateReplyAttributes (dumpAttributes attributes) = .ok attributes := by
  obtain ⟨hfew, checked, hchecked, hattributes⟩ := validateReplyAttributes_obj_iff.mp h
  have hnodup : (attributes.map (·.1)).Nodup := by
    rw [hattributes]
    exact (updateWith Dict.empty checked).nodup
  have hnames : (attributes.map fun entry => (entry.1, entry.2.toJson)).map (·.1) =
      attributes.map (·.1) := by
    rw [List.map_map]
    rfl
  have hentries : Json.entries (attributes.map fun entry => (entry.1, entry.2.toJson)) =
      attributes.map fun entry => (entry.1, entry.2.toJson) :=
    entries_of_nodup (hnames ▸ hnodup)
  refine validateReplyAttributes_obj_iff.mpr ⟨?_, attributes, ?_, ?_⟩
  · have hsubset : attributes.map (·.1) ⊆ checked.map (·.1) := by
      intro name hname
      obtain ⟨entry, hentry, rfl⟩ := List.mem_map.mp hname
      rw [hattributes] at hentry
      exact List.mem_map_of_mem (mem_updateWith_empty hentry)
    have hle := (List.subperm_of_subset hnodup hsubset).length_le
    rw [List.length_map, List.length_map, ← hchecked.length_eq] at hle
    rw [hentries, List.length_map]
    exact hle.trans hfew
  · rw [hentries, List.forall₂_map_left_iff, List.forall₂_same]
    intro kept hkept
    obtain ⟨entry, -, -, hname, hfree, hvalue⟩ := entry_of_validateReplyAttributes hfile h hkept
    exact checkAttribute_eq_ok_iff.mpr ⟨hname, hfree, rfl, checkEntry_toJson hvalue⟩
  · have hfresh : ((Dict.empty : Dict String ReplyEntry).items ++ attributes).map Prod.fst |>.Nodup :=
      hnodup
    exact (Dict.items_foldl_set hfresh).symm

/-! ### The rows of the API -/

theorem returns_compilePolicy_iff {row : Policy} :
    Returns (compilePolicy row) ↔
      Returns (validateReplyAttributes row.replyAttributes) ∧ Returns (parseConditions row.conditions) := by
  unfold compilePolicy
  cases validateReplyAttributes row.replyAttributes with
  | error error => simp [Returns]
  | ok attributes =>
      cases parseConditions row.conditions with
      | error error => simp [Returns]
      | ok conditions => simp [Returns]

/-- The row compiles to these conditions and to the attributes it holds, and its conditions are their
own normal form. -/
def Policy.Keeps (row : Policy) (submitted : List Condition) : Prop :=
  ∃ policy, compilePolicy row = .ok policy ∧
    (∀ ctx tz, policy.matches ctx tz = allMatch ctx tz submitted) ∧
    dumpAttributes policy.replyAttributes = row.replyAttributes ∧
    (parseConditions row.conditions).map dumpConditions = .ok row.conditions

/-- A column of conditions that stands for the submitted ones. -/
def KeepsConditions (column : Json) (submitted : List Condition) : Prop :=
  ∃ conditions, parseConditions column = .ok conditions ∧
    (∀ ctx tz, allMatch ctx tz conditions = allMatch ctx tz submitted) ∧
    dumpConditions conditions = column

/-- A column of reply attributes that compiles to what it holds. -/
def KeepsAttributes (column : Json) : Prop :=
  ∃ attributes, validateReplyAttributes column = .ok attributes ∧ dumpAttributes attributes = column

theorem keeps_iff {row : Policy} {submitted : List Condition} :
    row.Keeps submitted ↔ KeepsConditions row.conditions submitted ∧ KeepsAttributes row.replyAttributes := by
  unfold Policy.Keeps KeepsConditions KeepsAttributes compilePolicy
  cases hattributes : validateReplyAttributes row.replyAttributes with
  | error error => simp
  | ok attributes =>
      cases hconditions : parseConditions row.conditions with
      | error error => simp
      | ok conditions =>
          constructor
          · rintro ⟨policy, hpolicy, hmatches, hattrs, hdump⟩
            cases hpolicy
            exact ⟨⟨_, rfl, hmatches, Except.ok.inj hdump⟩, _, rfl, hattrs⟩
          · rintro ⟨⟨found, hfound, hmatches, hdump⟩, kept, hkept, hattrs⟩
            cases hfound
            cases hkept
            exact ⟨_, rfl, hmatches, hattrs, congrArg Except.ok hdump⟩

theorem keepsConditions_dump {items : List Json} {submitted : List Condition}
    (h : parseConditions (.arr items) = .ok submitted) :
    KeepsConditions (dumpConditions submitted) submitted :=
  ⟨submitted, parseConditions_dump h, fun _ _ => rfl, rfl⟩

theorem keepsAttributes_dump {dictionary : RadiusDictionary} (hfile : dictionary.OfFile)
    {members : List (String × Json)} {attributes : ReplyAttributes}
    (h : validateReplyAttributes (.obj members) dictionary = .ok attributes) :
    KeepsAttributes (dumpAttributes attributes) :=
  ⟨attributes, validateReplyAttributes_dump (by rintro d ⟨⟩; exact hfile) h, rfl⟩

theorem mapError_eq_ok_iff {ε ε' α : Type} {f : ε → ε'} {result : Except ε α} {value : α} :
    result.mapError f = .ok value ↔ result = .ok value := by
  cases result <;> simp [Except.mapError]

theorem columns_of_validate {dictionary : RadiusDictionary} {body : PolicyBody} {accepted : PolicyIn}
    (h : body.validate dictionary = .ok accepted) :
    parseConditions (.arr (body.conditions.map .obj)) = .ok accepted.conditions ∧
      validateReplyAttributes (.obj body.replyAttributes) dictionary = .ok accepted.replyAttributes := by
  simp only [PolicyBody.validate, bind_eq_ok_iff] at h
  obtain ⟨_, _, _, _, _, _, conditions, hconditions, _, _, attributes, hattributes, h⟩ := h
  split at h
  · cases h
  · cases h
    exact ⟨mapError_eq_ok_iff.mp hconditions, mapError_eq_ok_iff.mp hattributes⟩

theorem mapM_some_eq_ok {ε α β : Type} {f : α → Except ε β} {value : Option α} {result : Option β}
    (h : value.mapM f = .ok result) :
    (value = none ∧ result = none) ∨ ∃ a b, value = some a ∧ result = some b ∧ f a = .ok b := by
  cases value with
  | none =>
      cases h
      exact .inl ⟨rfl, rfl⟩
  | some a =>
      obtain ⟨b, hb, h⟩ := bind_eq_ok_iff.mp h
      cases h
      exact .inr ⟨a, b, rfl, rfl, hb⟩

theorem keeps_row {dictionary : RadiusDictionary} (hfile : dictionary.OfFile) {body : PolicyBody}
    {accepted : PolicyIn} (h : body.validate dictionary = .ok accepted) (id : Nat) :
    (accepted.row id).Keeps accepted.conditions := by
  obtain ⟨hconditions, hattributes⟩ := columns_of_validate h
  exact keeps_iff.mpr ⟨keepsConditions_dump hconditions, keepsAttributes_dump hfile hattributes⟩

/-- What the conditions of a change were submitted as, for a row that keeps `old`. -/
def PolicyChanges.Submits (body : PolicyChanges) (old submitted : List Condition) : Prop :=
  match body.conditions with
  | some raw => parseConditions (.arr (raw.map .obj)) = .ok submitted
  | none => submitted = old

section Update

variable {dictionary : RadiusDictionary} (hfile : dictionary.OfFile) {body : PolicyChanges}
  {accepted : PolicyUpdate} (h : body.validate dictionary = .ok accepted) (row : Policy)
include h

/-- The conditions that a change leaves are those of the row, or new ones that were submitted. -/
theorem conditions_apply :
    (body.conditions = none ∧ (accepted.apply row).conditions = row.conditions) ∨
      ∃ raw submitted, body.conditions = some raw ∧
        parseConditions (.arr (raw.map .obj)) = .ok submitted ∧
        (accepted.apply row).conditions = dumpConditions submitted := by
  simp only [PolicyChanges.validate, bind_eq_ok_iff] at h
  obtain ⟨_, _, _, _, _, _, conditions, hconditions, _, _, attributes, hattributes, h⟩ := h
  cases h
  rcases mapM_some_eq_ok hconditions with ⟨hnone, rfl⟩ | ⟨raw, submitted, hraw, rfl, hparse⟩
  · exact .inl ⟨hnone, rfl⟩
  · exact .inr ⟨raw, submitted, hraw, mapError_eq_ok_iff.mp hparse, rfl⟩

theorem replyAttributes_apply :
    (accepted.apply row).replyAttributes = row.replyAttributes ∨
      ∃ raw attributes, validateReplyAttributes (.obj raw) dictionary = .ok attributes ∧
        (accepted.apply row).replyAttributes = dumpAttributes attributes := by
  simp only [PolicyChanges.validate, bind_eq_ok_iff] at h
  obtain ⟨_, _, _, _, _, _, conditions, hconditions, _, _, attributes, hattributes, h⟩ := h
  cases h
  rcases mapM_some_eq_ok hattributes with ⟨-, rfl⟩ | ⟨raw, kept, -, rfl, hvalid⟩
  · exact .inl rfl
  · exact .inr ⟨raw, kept, mapError_eq_ok_iff.mp hvalid, rfl⟩

include hfile

theorem keeps_apply {old : List Condition} (hrow : row.Keeps old) :
    ∃ submitted, body.Submits old submitted ∧ (accepted.apply row).Keeps submitted := by
  obtain ⟨hconditions, hattributes⟩ := keeps_iff.mp hrow
  have hattributes' : KeepsAttributes (accepted.apply row).replyAttributes := by
    rcases replyAttributes_apply h row with hsame | ⟨raw, attributes, hvalid, hnew⟩
    · exact hsame ▸ hattributes
    · exact hnew ▸ keepsAttributes_dump hfile hvalid
  rcases conditions_apply h row with ⟨hnone, hsame⟩ | ⟨raw, submitted, hraw, hparse, hnew⟩
  · refine ⟨old, ?_, keeps_iff.mpr ⟨hsame ▸ hconditions, hattributes'⟩⟩
    simp [PolicyChanges.Submits, hnone]
  · refine ⟨submitted, ?_, keeps_iff.mpr ⟨hnew ▸ keepsConditions_dump hparse, hattributes'⟩⟩
    simpa [PolicyChanges.Submits, hraw] using hparse

theorem compiles_apply (hrow : Returns (compilePolicy row)) :
    Returns (compilePolicy (accepted.apply row)) := by
  obtain ⟨hattributes, hconditions⟩ := returns_compilePolicy_iff.mp hrow
  refine returns_compilePolicy_iff.mpr ⟨?_, ?_⟩
  · rcases replyAttributes_apply h row with hsame | ⟨raw, attributes, hvalid, hnew⟩
    · exact hsame ▸ hattributes
    · obtain ⟨kept, hkept, -⟩ := keepsAttributes_dump hfile hvalid
      exact hnew ▸ ⟨kept, hkept⟩
  · rcases conditions_apply h row with ⟨-, hsame⟩ | ⟨raw, submitted, -, hparse, hnew⟩
    · exact hsame ▸ hconditions
    · exact hnew ▸ ⟨submitted, parseConditions_dump hparse⟩

end Update

/-! ### Runs of the API -/

/-- Every stored policy compiles. -/
def Tables.Compile (t : Tables) : Prop :=
  ∀ row ∈ t.policies, Returns (compilePolicy row)

/-- Calls with the roles of their callers, one after the other. -/
def runPolicyCalls (dictionary : RadiusDictionary) (calls : List (AdminRole × PolicyCall))
    (db : Database) : Database :=
  calls.foldl (fun db call => call.2.run dictionary call.1 db) db

theorem eq_ok_of_toOption {ε α : Type} {result : Except ε α} {value : α}
    (h : result.toOption = some value) : result = .ok value := by
  cases result with
  | error error => cases h
  | ok found => exact congrArg Except.ok (Option.some.inj h)

/-- What every call of the API keeps of a row. -/
structure RowInvariant (dictionary : RadiusDictionary) (P : Policy → Prop) : Prop where
  created : ∀ {body : PolicyBody} {accepted : PolicyIn}, body.validate dictionary = .ok accepted →
    ∀ id, P (accepted.row id)
  changed : ∀ {body : PolicyChanges} {accepted : PolicyUpdate}, body.validate dictionary = .ok accepted →
    ∀ row, P row → P (accepted.apply row)
  moved : ∀ (row : Policy) (priority : Int), P row → P { row with priority }

namespace RowInvariant

variable {dictionary : RadiusDictionary} {P : Policy → Prop} (hinv : RowInvariant dictionary P)
  {role : AdminRole} {db : Database} {outcome : Outcome}
include hinv

theorem createPolicy {body : PolicyBody} {accepted : PolicyIn}
    (hvalid : body.validate dictionary = .ok accepted)
    (h : Naco.createPolicy role accepted db = .ok outcome) (hdb : ∀ row ∈ db.val.policies, P row) :
    ∀ row ∈ outcome.db.val.policies, P row := by
  simp only [Naco.createPolicy, bind_eq_ok_iff, commitOrConflict_eq_ok_iff] at h
  obtain ⟨_, -, hconsistent, rfl⟩ := h
  intro row hrow
  rcases List.mem_append.mp hrow with hrow | hrow
  · exact hdb row hrow
  · rw [List.mem_singleton.mp hrow]
    exact hinv.created hvalid _

theorem updatePolicy {body : PolicyChanges} {accepted : PolicyUpdate}
    (hvalid : body.validate dictionary = .ok accepted) {id : Nat}
    (h : Naco.updatePolicy role id accepted db = .ok outcome) (hdb : ∀ row ∈ db.val.policies, P row) :
    ∀ row ∈ outcome.db.val.policies, P row := by
  simp only [Naco.updatePolicy, bind_eq_ok_iff] at h
  obtain ⟨_, -, policy, hfound, h⟩ := h
  split at h
  · cases h
  · obtain ⟨hconsistent, rfl⟩ := commitOrConflict_eq_ok_iff.mp h
    intro row hrow
    have hpolicy := List.mem_of_find?_eq_some (getOr404_eq_ok_iff.mp hfound)
    rcases mem_replaceRow hrow with rfl | hrow
    · exact hinv.changed hvalid policy (hdb policy hpolicy)
    · exact hdb row hrow

theorem reorder {ids : List Int} (h : Naco.reorder role ids db = .ok outcome)
    (hdb : ∀ row ∈ db.val.policies, P row) : ∀ row ∈ outcome.db.val.policies, P row := by
  simp only [Naco.reorder, bind_eq_ok_iff] at h
  obtain ⟨_, -, h⟩ := h
  split at h
  · obtain ⟨hconsistent, rfl⟩ := commitOrRaise_eq_ok_iff.mp h
    intro row hrow
    obtain ⟨old, hold, rfl⟩ := List.mem_map.mp hrow
    exact hinv.moved old _ (hdb old hold)
  · cases h

/-- One call keeps it of all policies. -/
theorem run (role : AdminRole) (call : PolicyCall) (hdb : ∀ row ∈ db.val.policies, P row) :
    ∀ row ∈ (call.run dictionary role db).val.policies, P row := by
  have hend : ∀ outcome : Option Outcome,
      (∀ found ∈ outcome, ∀ row ∈ found.db.val.policies, P row) →
        ∀ row ∈ ((outcome.map (·.db)).getD db).val.policies, P row := by
    intro outcome houtcome
    cases outcome with
    | none => exact hdb
    | some found => exact houtcome found rfl
  refine hend _ fun found hfound => ?_
  cases call with
  | create body =>
      obtain ⟨accepted, haccepted, hroute⟩ := Option.bind_eq_some_iff.mp hfound
      exact hinv.createPolicy (eq_ok_of_toOption haccepted) (eq_ok_of_toOption hroute) hdb
  | update id body =>
      obtain ⟨accepted, haccepted, hroute⟩ := Option.bind_eq_some_iff.mp hfound
      exact hinv.updatePolicy (eq_ok_of_toOption haccepted) (eq_ok_of_toOption hroute) hdb
  | delete id =>
      have hroute := eq_ok_of_toOption hfound
      simp only [deletePolicy, bind_eq_ok_iff, commitOrRaise_eq_ok_iff] at hroute
      obtain ⟨_, -, _, -, hconsistent, rfl⟩ := hroute
      exact fun row hrow => hdb row (List.mem_of_mem_filter hrow)
  | reorder ids => exact hinv.reorder (eq_ok_of_toOption hfound) hdb

theorem runPolicyCalls (calls : List (AdminRole × PolicyCall)) (hdb : ∀ row ∈ db.val.policies, P row) :
    ∀ row ∈ (Naco.runPolicyCalls dictionary calls db).val.policies, P row := by
  induction calls generalizing db with
  | nil => exact hdb
  | cons call calls ih => exact ih (hinv.run call.1 call.2 hdb)

end RowInvariant

theorem rowInvariant_compiles {dictionary : RadiusDictionary} (hfile : dictionary.OfFile) :
    RowInvariant dictionary fun row => Returns (compilePolicy row) where
  created hvalid id := by
    obtain ⟨policy, hpolicy, -⟩ := keeps_row hfile hvalid id
    exact ⟨policy, hpolicy⟩
  changed hvalid row hrow := compiles_apply hfile hvalid row hrow
  moved row priority hrow := by
    have hcolumns := returns_compilePolicy_iff.mp hrow
    exact returns_compilePolicy_iff.mpr hcolumns

theorem compile_runPolicyCalls {dictionary : RadiusDictionary} (hfile : dictionary.OfFile)
    (calls : List (AdminRole × PolicyCall)) {db : Database} (hdb : db.val.Compile) :
    (runPolicyCalls dictionary calls db).val.Compile :=
  (rowInvariant_compiles hfile).runPolicyCalls calls hdb

/-- Saving a policy keeps it: the row of an accepted body, and one that an accepted change leaves,
compiles to the submitted conditions and to the stored attributes, and no call makes the set fail to
load. -/
theorem policies_saved_as_submitted (dictionary : RadiusDictionary) (hfile : dictionary.OfFile) :
    (∀ (body : PolicyBody) (accepted : PolicyIn), body.validate dictionary = .ok accepted →
      ∃ submitted, parseConditions (.arr (body.conditions.map .obj)) = .ok submitted ∧
        ∀ id, (accepted.row id).Keeps submitted) ∧
    (∀ (body : PolicyChanges) (accepted : PolicyUpdate), body.validate dictionary = .ok accepted →
      ∀ row old, row.Keeps old →
        ∃ submitted, body.Submits old submitted ∧ (accepted.apply row).Keeps submitted) ∧
    ∀ (calls : List (AdminRole × PolicyCall)) (db : Database), db.val.Compile →
      Returns (loadPolicies (runPolicyCalls dictionary calls db).val) := by
  refine ⟨?_, ?_, ?_⟩
  · intro body accepted hvalid
    exact ⟨accepted.conditions, (columns_of_validate hvalid).1, keeps_row hfile hvalid⟩
  · intro body accepted hvalid row old hrow
    exact keeps_apply hfile hvalid row hrow
  · intro calls db hdb
    rw [returns_loadPolicies_iff]
    exact fun row hrow _ => compile_runPolicyCalls hfile calls hdb row hrow

/-- A small dictionary, and a policy as an administrator types it. -/
def smallDictionary : RadiusDictionary :=
  .ofNames ["Filter-Id", "Session-Timeout"] fun _ => none

def staffBody : PolicyBody where
  name := "staff"
  conditions := [
    [("type", .str "group"), ("op", .str "in"), ("value", .arr [.str " staff "])],
    [("type", .str "mac"), ("op", .str "matches"), ("value", .str "AA-BB-*")]]
  action := .permit
  vlan := some 20
  replyAttributes := [("filter-id", .str "staff-acl")]

theorem smallDictionary_ofFile : smallDictionary.OfFile :=
  ⟨["Filter-Id", "Session-Timeout"], fun _ => none, rfl, by decide⟩

theorem policies_saved_as_submitted_staff :
    smallDictionary.OfFile ∧ Returns (staffBody.validate smallDictionary) ∧
      Returns (loadPolicies
        (runPolicyCalls smallDictionary [(.superuser, .create staffBody)] ⟨{}, by decide⟩).val) := by
  exact ⟨smallDictionary_ofFile, by decide +kernel,
    (policies_saved_as_submitted smallDictionary smallDictionary_ofFile).2.2 _ _
      (by simp [Tables.Compile])⟩

/-! ### Damaged rows -/

/-- A JSON list of valid conditions. -/
def IsConditionList (column : Json) : Prop :=
  ∃ items, column = .arr items ∧ items.length ≤ maxConditions ∧
    ∀ item ∈ items, Returns (validateCondition item)

/-- A JSON object of valid reply attributes. -/
def IsAttributeObject (column : Json) : Prop :=
  ∃ members, column = .obj members ∧ (Json.entries members).length ≤ maxAttrs ∧
    ∀ entry ∈ Json.entries members, Returns (checkAttribute none entry.1 entry.2)

theorem returns_parseConditions_iff {column : Json} :
    Returns (parseConditions column) ↔ column = .null ∨ IsConditionList column := by
  cases column with
  | null => exact iff_of_true ⟨[], rfl⟩ (.inl rfl)
  | arr items =>
      simp only [Returns, parseConditions_arr_iff, exists_and_left]
      constructor
      · rintro ⟨hfew, conditions, hitems⟩
        refine .inr ⟨items, rfl, hfew, fun item hitem => ?_⟩
        obtain ⟨cond, -, hcond⟩ := forall₂_mem_left hitems hitem
        exact ⟨cond, hcond⟩
      · rintro (hnull | ⟨found, hfound, hfew, hitems⟩)
        · cases hnull
        · cases hfound
          obtain ⟨conditions, hconditions⟩ := returns_mapM_iff.mpr hitems
          exact ⟨hfew, conditions, mapM_eq_ok_iff.mp hconditions⟩
  | _ =>
      refine iff_of_false ?_ ?_
      · rintro ⟨conditions, h⟩
        cases h
      · rintro (hnull | ⟨items, hitems, -⟩)
        · cases hnull
        · cases hitems

theorem returns_validateReplyAttributes_iff {column : Json} :
    Returns (validateReplyAttributes column) ↔ column.isFalsy = true ∨ IsAttributeObject column := by
  by_cases hfalsy : column.isFalsy = true
  · refine iff_of_true ⟨[], ?_⟩ (.inl hfalsy)
    unfold validateReplyAttributes
    rw [if_pos hfalsy]
  cases column with
  | obj members =>
      simp only [hfalsy, Bool.false_eq_true, false_or, Returns, validateReplyAttributes_obj_iff]
      constructor
      · rintro ⟨attributes, hfew, checked, hchecked, -⟩
        refine ⟨members, rfl, hfew, fun entry hentry => ?_⟩
        obtain ⟨kept, -, hkept⟩ := forall₂_mem_left hchecked hentry
        exact ⟨kept, hkept⟩
      · rintro ⟨found, hfound, hfew, hentries⟩
        cases hfound
        obtain ⟨checked, hchecked⟩ := returns_mapM_iff.mpr hentries
        exact ⟨_, hfew, checked, mapM_eq_ok_iff.mp hchecked, rfl⟩
  | _ =>
      refine iff_of_false ?_ ?_
      · rintro ⟨attributes, h⟩
        unfold validateReplyAttributes at h
        rw [if_neg hfalsy] at h
        cases h
      · rintro (htrue | ⟨members, hmembers, -⟩)
        · exact hfalsy htrue
        · cases hmembers

/-- A permit means that every enabled row could be read, and it is that of the first match. Null
conditions are read as no conditions, a falsy value of the other column as no attributes. -/
theorem permit_only_from_readable_rows (platform : Platform) (db : Database) (ctx : AuthContext)
    (decision : Decision) (h : evaluate platform db.val ctx = .ok decision)
    (hpermit : decision.accepted = true) :
    (∀ row ∈ db.val.policies, row.enabled = true →
      (row.conditions = .null ∨ IsConditionList row.conditions) ∧
        (row.replyAttributes.isFalsy = true ∨ IsAttributeObject row.replyAttributes)) ∧
      ∃ row policy, FirstMatch db.val ctx platform.timezone row policy ∧ policy.action = .permit ∧
        decision = policy.decision := by
  unfold evaluate at h
  cases hload : loadPolicies db.val with
  | error error =>
      rw [hload] at h
      cases h
      cases hpermit
  | ok policies =>
      rw [hload] at h
      constructor
      · intro row hrow henabled
        have hcompiles := returns_loadPolicies_iff.mp ⟨policies, hload⟩ row hrow henabled
        obtain ⟨hattributes, hconditions⟩ := returns_compilePolicy_iff.mp hcompiles
        exact ⟨returns_parseConditions_iff.mp hconditions,
          returns_validateReplyAttributes_iff.mp hattributes⟩
      · obtain ⟨policy, hfirst, haction, hdecision⟩ := firstHolding_of_decide h hpermit
        obtain ⟨row, hrow⟩ := (firstHolding_iff_firstMatch db.property hload).mp hfirst
        exact ⟨row, policy, hrow, haction, hdecision⟩

/-- A platform in UTC, and a station at its noon. -/
def utcPlatform : Platform where
  timezone := Zone.utc
  oui _ := none
  sha256 _ := ""

def someStation : AuthContext where
  authMethod := .mab
  mac := some "aa:bb:cc:00:00:01"
  now := ⟨63850334400000000, 0⟩

def onePolicy (conditions : Json) : Database :=
  ⟨{ policies := [{ id := 1, name := "lan", action := .permit, conditions }] }, by
    constructor <;> simp⟩

theorem permit_only_from_readable_rows_lan :
    evaluate utcPlatform (onePolicy (.arr [.obj [("type", .str "always")]])).val someStation =
        .ok { action := .permit, policyId := some 1, policyName := "lan",
              reason := "permitted by policy lan" } ∧
      (.arr [.obj [("type", .str "always")]] = Json.null ∨
        IsConditionList (.arr [.obj [("type", .str "always")]])) := by
  have heval : evaluate utcPlatform (onePolicy (.arr [.obj [("type", .str "always")]])).val someStation =
      .ok { action := .permit, policyId := some 1, policyName := "lan",
            reason := "permitted by policy lan" } := rfl
  exact ⟨heval, ((permit_only_from_readable_rows utcPlatform _ someStation _ heval rfl).1 _
    List.mem_cons_self rfl).1⟩

/-- A permit policy whose conditions are lost permits everybody. -/
theorem null_conditions_permit :
    ¬ ∀ (platform : Platform) (db : Database) (ctx : AuthContext) (decision : Decision),
      evaluate platform db.val ctx = .ok decision → decision.accepted = true →
        ∀ row ∈ db.val.policies, row.enabled = true →
          IsConditionList row.conditions ∧ IsAttributeObject row.replyAttributes := by
  intro hall
  have hlist := (hall utcPlatform (onePolicy .null) someStation
    { action := .permit, policyId := some 1, policyName := "lan",
      reason := "permitted by policy lan" } rfl rfl _ List.mem_cons_self rfl).1
  obtain ⟨items, hitems, -⟩ := hlist
  cases hitems

end Naco
