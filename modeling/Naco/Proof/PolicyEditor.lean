import Naco.Lib.IpText
import Naco.Lib.JsonObjects
import Naco.Lib.Words
import Naco.Proof.Policies
import Naco.Web.PolicyEditor
import Mathlib.Data.List.Perm.Subperm

/-!
# A policy through the editor

The editor draws a policy into inputs and reads them back. Lists become one text with commas, names and
days become boxes, and the values of an attribute become texts: what each of these steps loses is the
condition under which saving an untouched policy changes it.
-/

namespace Py

/-- Texts joined with a separator and a space after it. -/
theorem splitOn_join_spaced {sep : Char} (hsep : sep ≠ ' ') {first : String} {rest : List String}
    (h : ∀ item ∈ first :: rest, sep ∉ item.toList) :
    splitOn sep (join (String.ofList [sep, ' ']) (first :: rest)) = first :: rest.map (" " ++ ·) := by
  have hjoin : ∀ (first : String) (rest : List String), join (String.ofList [sep, ' ']) (first :: rest) =
      join (String.ofList [sep]) (first :: rest.map (" " ++ ·)) := by
    intro first rest
    induction rest generalizing first with
    | nil => rw [List.map_nil, join_singleton, join_singleton]
    | cons second rest ih =>
        have hspace : String.ofList [sep, ' '] = String.ofList [sep] ++ " " := by
          rw [← String.toList_inj]
          simp
        rw [join_cons_cons, ih, List.map_cons, join_cons_cons, hspace]
        cases rest with
        | nil => simp only [List.map_nil, join_singleton, String.append_assoc]
        | cons third rest => simp only [List.map_cons, join_cons_cons, String.append_assoc]
  rw [hjoin]
  refine splitOn_join (List.cons_ne_nil _ _) fun part hpart => ?_
  rcases List.mem_cons.mp hpart with rfl | hpart
  · exact h _ List.mem_cons_self
  · obtain ⟨item, hitem, rfl⟩ := List.mem_map.mp hpart
    rw [String.toList_append, List.mem_append, not_or]
    exact ⟨by simpa using hsep, h item (List.mem_cons_of_mem _ hitem)⟩

/-- The chosen ones of a list, in its order, are those that were marked when these stand in that order
too. -/
theorem filter_mem_eq_iff {α : Type} [DecidableEq α] {all chosen : List α} (hall : all.Nodup) :
    (all.filter fun a => decide (a ∈ chosen)) = chosen ↔ chosen.Sublist all := by
  constructor
  · intro h
    rw [← h]
    exact List.filter_sublist
  · intro h
    have hself : chosen.filter (fun a => decide (a ∈ chosen)) = chosen :=
      List.filter_eq_self.mpr fun a ha => decide_eq_true ha
    have hsublist : chosen.Sublist (all.filter fun a => decide (a ∈ chosen)) := by
      have hfiltered := h.filter fun a => decide (a ∈ chosen)
      rwa [hself] at hfiltered
    have hlength : (all.filter fun a => decide (a ∈ chosen)).length ≤ chosen.length :=
      (List.subperm_of_subset (hall.filter _) fun a ha =>
        of_decide_eq_true (List.mem_filter.mp ha).2).length_le
    exact (hsublist.eq_of_length_le hlength).symm

theorem filter_names_eq_iff {α : Type} [DecidableEq α] {name : α → String}
    (hname : Function.Injective name) {all chosen : List α} (hall : all.Nodup) :
    ((all.map name).filter fun s => decide (s ∈ chosen.map name)) = chosen.map name ↔
      chosen.Sublist all := by
  have hfilter : ((all.map name).filter fun s => decide (s ∈ chosen.map name)) =
      (all.filter fun a => decide (a ∈ chosen)).map name := by
    rw [List.filter_map]
    congr 1
    refine List.filter_congr fun a _ => ?_
    exact decide_eq_decide.mpr (List.mem_map_of_injective hname)
  rw [hfilter, (List.map_injective_iff.mpr hname).eq_iff, filter_mem_eq_iff hall]

end Py

namespace Naco

open Py PolicyEditor

/-! ### What the editor keeps -/

/-- `trim` takes nothing from a stripped text. -/
def KeepsEnds (s : String) : Prop :=
  s.toList.head? ≠ some Js.byteOrderMark ∧ s.toList.getLast? ≠ some Js.byteOrderMark

def TextTest.Kept : TextTest → Prop
  | .equals v | .notEquals v | .matching v => KeepsEnds v.val
  | .isIn vs | .notIn vs => ∀ v ∈ vs.val, ',' ∉ v.val.toList ∧ KeepsEnds v.val

/-- The condition is submitted as it is stored. -/
def Condition.Kept : Condition → Prop
  | .always => True
  | .text _ test _ => test.Kept
  | .authMethod value _ => value.Sublist AuthMethod.all
  | .deviceStatus value _ => value.Sublist DeviceState.all
  | .mac _ => True
  | .time cond => isTimeString cond.start.val = true ∧ isTimeString cond.stop.val = true ∧
      cond.days.Sublist Day.all

def ReplyValue.Kept : ReplyValue → Prop
  | .int _ => True
  | .text value => IpAddress.decimal value.toList = none

def ReplyEntry.Kept : ReplyEntry → Prop
  | .one value => value.Kept
  | .many values => 2 ≤ values.length ∧ ∀ value ∈ values, value.Kept

/-! ### Lists in a text -/

theorem keepsEnds_iff {s : String} (h : strip s = s) : Js.trim s = s ↔ KeepsEnds s :=
  Js.trim_eq_self_iff_of_strip h

theorem trim_space (s : String) : Js.trim (" " ++ s) = Js.trim s := by
  rw [Js.trim, String.toList_append]
  exact congrArg String.ofList (dropEnds_cons_of_pos Js.isSpace (by decide) s.toList)

/-- An item that is read has no comma, and trimming leaves it. -/
theorem plain_of_mem_listItems {raw item : String} (h : item ∈ listItems raw) :
    ',' ∉ item.toList ∧ Js.trim item = item := by
  obtain ⟨hmem, -⟩ := List.mem_filter.mp h
  obtain ⟨piece, hpiece, rfl⟩ := List.mem_map.mp hmem
  exact ⟨fun hcomma => not_mem_splitOn hpiece (Js.mem_trim hcomma), Js.trim_trim piece⟩

theorem listItems_join_iff {items : List String} (hne : items ≠ [])
    (hitems : ∀ item ∈ items, strip item = item ∧ item ≠ "") :
    listItems (join ", " items) = items ↔ ∀ item ∈ items, ',' ∉ item.toList ∧ KeepsEnds item := by
  constructor
  · intro h item hitem
    have hread : item ∈ listItems (join ", " items) := by
      rw [h]
      exact hitem
    obtain ⟨hcomma, htrim⟩ := plain_of_mem_listItems hread
    exact ⟨hcomma, (keepsEnds_iff (hitems item hitem).1).mp htrim⟩
  · intro h
    have htrim : ∀ item ∈ items, Js.trim item = item :=
      fun item hitem => (keepsEnds_iff (hitems item hitem).1).mpr (h item hitem).2
    cases items with
    | nil => exact absurd rfl hne
    | cons first rest =>
        have hspaced : (rest.map (" " ++ ·)).map Js.trim = rest := by
          rw [List.map_map]
          refine (List.map_congr_left fun item hitem => ?_).trans (List.map_id rest)
          exact (trim_space item).trans (htrim item (List.mem_cons_of_mem _ hitem))
        have hsplit : splitOn ',' (join ", " (first :: rest)) = first :: rest.map (" " ++ ·) :=
          splitOn_join_spaced (by decide) fun item hitem => (h item hitem).1
        rw [listItems, hsplit, List.map_cons, hspaced, htrim first List.mem_cons_self]
        exact List.filter_eq_self.mpr fun item hitem => decide_eq_true (hitems item hitem).2

/-! ### Boxes -/

theorem stringItems_strings (items : List String) : stringItems (some (.arr (items.map .str))) = items := by
  rw [stringItems, List.filterMap_map]
  exact List.filterMap_some

theorem read_checked {box : String → CheckBox} {readId : String → String} {names chosen : List String}
    (hchecked : ∀ name, (box name).checked = decide (name ∈ chosen))
    (hread : ∀ name ∈ names, readId (box name).id = name) :
    (checkedIds (names.map box)).map readId = names.filter fun name => decide (name ∈ chosen) := by
  have hfilter : (names.map box).filter (·.checked) =
      (names.filter fun name => decide (name ∈ chosen)).map box := by
    rw [List.filter_map]
    exact congrArg (List.map box) (List.filter_congr fun name _ => hchecked name)
  rw [checkedIds, hfilter, List.map_map, List.map_map]
  refine (List.map_congr_left fun name hname => ?_).trans (List.map_id _)
  exact hread name (List.mem_of_mem_filter hname)

/-- The pieces of an element's id: its letter, those of the name and the random part. -/
theorem splitOn_id {letter : String} (hletter : '-' ∉ letter.toList) (name : String) (suffix : Suffix) :
    splitOn '-' (letter ++ "-" ++ name ++ "-" ++ suffix.val) =
      letter :: (splitOn '-' name ++ [suffix.val]) := by
  have hne : splitOn '-' name ≠ [] := by
    rw [splitOn_eq, ne_eq, List.map_eq_nil_iff]
    exact List.splitOn_ne_nil _ _
  have hjoin : letter ++ "-" ++ name ++ "-" ++ suffix.val =
      join "-" (letter :: (splitOn '-' name ++ [suffix.val])) := by
    rw [join_cons (by simp), join_append hne (by simp), join_singleton]
    have hname : join "-" (splitOn '-' name) = name := join_splitOn '-' name
    rw [hname]
    simp only [String.append_assoc]
  rw [hjoin]
  refine splitOn_join (List.cons_ne_nil _ _) fun part hpart => ?_
  rcases List.mem_cons.mp hpart with rfl | hpart
  · exact hletter
  · rcases List.mem_append.mp hpart with hpart | hpart
    · exact not_mem_splitOn hpart
    · rw [List.mem_singleton.mp hpart]
      exact suffix.property

theorem choiceOfId_choiceBox (random : String → Suffix) (chosen : List String) (name : String) :
    choiceOfId (choiceBox random chosen name).id = name := by
  have hid : (choiceBox random chosen name).id = "c" ++ "-" ++ name ++ "-" ++ (random name).val := by
    have hletter : "c" ++ "-" = "c-" := by decide
    rw [hletter]
    rfl
  rw [choiceOfId, hid, splitOn_id (by decide), List.drop_one, List.tail_cons, List.dropLast_concat]
  exact join_splitOn '-' name

theorem dayOfId_dayBox (random : String → Suffix) (chosen : List String) {name : String}
    (hname : '-' ∉ name.toList) : dayOfId (dayBox random chosen name).id = name := by
  have hid : (dayBox random chosen name).id = "d" ++ "-" ++ name ++ "-" ++ (random name).val := by
    have hletter : "d" ++ "-" = "d-" := by decide
    rw [hletter]
    rfl
  have hpieces : splitOn '-' name = [name] := by
    have hself := splitOn_join (List.cons_ne_nil name []) (by simpa using hname)
    rwa [join_singleton] at hself
  rw [dayOfId, hid, splitOn_id (by decide), hpieces]
  rfl

/-! ### Rows of conditions -/

section Row

variable (random : String → Suffix) {initial : List (String × Json)} {type op : String}
  {spec : ConditionType}

theorem read_of_members (htype : Json.member initial "type" = some (.str type))
    (hop : Json.member initial "op" = some (.str op)) (hspec : types.lookup type = some spec)
    (hallowed : op ∈ spec.ops) (halways : type ≠ "always") (htime : type ≠ "time") :
    (conditionRow random initial).read =
      .obj (("type", .str type) :: ("op", .str op) :: getValue op (drawValue random type initial)) := by
  have hknown : type ∈ types.map (·.1) := by
    obtain ⟨before, after, hsplit, -⟩ := List.lookup_eq_some_iff.mp hspec
    rw [hsplit]
    exact List.mem_map_of_mem (List.mem_append_right _ List.mem_cons_self)
  have hrow : (conditionRow random initial).type = type := by
    simp only [conditionRow, htype, selectValue, if_pos hknown]
  have hselected : (conditionRow random initial).op = op := by
    simp only [conditionRow, htype, hop, selectValue, if_pos hknown, hspec, Option.map_some,
      Option.getD_some, if_pos hallowed]
  have hvalue : (conditionRow random initial).value = drawValue random type initial := by
    simp only [conditionRow, htype, selectValue, if_pos hknown]
  rw [ConditionRow.read, hrow, hselected, hvalue, if_neg halways, if_neg htime]

theorem drawValue_of_spec (hspec : types.lookup type = some spec) (halways : type ≠ "always")
    (htime : type ≠ "time") {value : Json} (hvalue : Json.member initial "value" = some value) :
    drawValue random type initial = match spec.choices with
      | some choices => .choices (choices.map (choiceBox random (stringItems (some value))))
      | none => match value with
        | .arr items => .text (join ", " (stringItems (some (.arr items))))
        | value => .text (textOr (some value) "") := by
  rw [drawValue]
  simp only [if_neg halways, if_neg htime, hspec, Option.bind_some, hvalue]
  cases spec.choices with
  | some choices => rfl
  | none => cases value <;> rfl

end Row

/-- What a row reads is what the condition is stored as, when the values are the same. -/
theorem sameMembers_fields_iff {type op value value' : Json} {stored : List (String × Json)}
    (hstored : stored.Perm [("type", type), ("op", op), ("value", value')]) :
    Json.SameMembers (.obj [("type", type), ("op", op), ("value", value)]) (.obj stored) ↔
      value = value' := by
  have hnames : ∀ value : Json, ([("type", type), ("op", op), ("value", value)].map Prod.fst).Nodup := by
    intro value
    simp
  constructor
  · intro h
    have hnodup : (stored.map Prod.fst).Nodup := (hstored.map Prod.fst).nodup_iff.mpr (hnames value')
    have hmem : ("value", value') ∈ stored := hstored.mem_iff.mpr (by simp)
    have hsame := Json.sameMembers_obj_iff.mp h "value"
    rw [(Json.member_eq_some_iff hnodup).mpr hmem] at hsame
    exact Option.some.inj hsame
  · rintro rfl
    exact Json.sameMembers_of_perm (hnames value) hstored.symm

section Row

variable (random : String → Suffix) {initial : List (String × Json)} {type op : String}
  {spec : ConditionType} (htype : Json.member initial "type" = some (.str type))
  (hop : Json.member initial "op" = some (.str op)) (hspec : types.lookup type = some spec)
  (hallowed : op ∈ spec.ops) (halways : type ≠ "always") (htime : type ≠ "time")
include htype hop hspec hallowed halways htime

theorem read_string_iff (hchoices : spec.choices = none) (hlist : op ∉ listOps) {s : String}
    (hs : s ≠ "") (hinitial : initial.Perm [("type", .str type), ("op", .str op), ("value", .str s)])
    (hvalue : Json.member initial "value" = some (.str s)) :
    Json.SameMembers (conditionRow random initial).read (.obj initial) ↔ Js.trim s = s := by
  rw [read_of_members random htype hop hspec hallowed halways htime,
    drawValue_of_spec random hspec halways htime hvalue, hchoices]
  simp only [getValue, if_neg hlist, textOr, if_neg hs]
  rw [sameMembers_fields_iff hinitial, Json.str.injEq]

theorem read_strings_iff (hchoices : spec.choices = none) (hlist : op ∈ listOps) {items : List String}
    (hinitial : initial.Perm
      [("type", .str type), ("op", .str op), ("value", .arr (items.map .str))])
    (hvalue : Json.member initial "value" = some (.arr (items.map .str))) :
    Json.SameMembers (conditionRow random initial).read (.obj initial) ↔
      listItems (join ", " items) = items := by
  rw [read_of_members random htype hop hspec hallowed halways htime,
    drawValue_of_spec random hspec halways htime hvalue, hchoices]
  simp only [getValue, if_pos hlist, stringItems_strings]
  rw [sameMembers_fields_iff hinitial, Json.arr_strings_inj]

theorem read_choices_iff {choices : List String} (hchoices : spec.choices = some choices)
    {items : List String}
    (hinitial : initial.Perm
      [("type", .str type), ("op", .str op), ("value", .arr (items.map .str))])
    (hvalue : Json.member initial "value" = some (.arr (items.map .str))) :
    Json.SameMembers (conditionRow random initial).read (.obj initial) ↔
      (choices.filter fun name => decide (name ∈ items)) = items := by
  rw [read_of_members random htype hop hspec hallowed halways htime,
    drawValue_of_spec random hspec halways htime hvalue, hchoices]
  have hread : (checkedIds (choices.map (choiceBox random items))).map choiceOfId =
      choices.filter fun name => decide (name ∈ items) :=
    read_checked (fun _ => rfl) fun name _ => choiceOfId_choiceBox random items name
  simp only [getValue, stringItems_strings]
  rw [sameMembers_fields_iff hinitial, ← hread, ← Json.arr_strings_inj, List.map_map]
  rfl

end Row

theorem lookup_textField (field : TextField) :
    types.lookup field.cond.type = some { ops := field.cond.ops.map TextOp.name } := by
  cases field <;> rfl

theorem textField_type (field : TextField) : field.cond.type ≠ "always" ∧ field.cond.type ≠ "time" := by
  cases field <;> decide

theorem read_text_iff (random : String → Suffix) (field : TextField) (test : TextTest)
    (allowed : test.op ∈ field.cond.ops) :
    Json.SameMembers
        (conditionRow random (objectMembers (Condition.text field test allowed).dump)).read
        (Condition.text field test allowed).dump ↔ test.Kept := by
  have hspec := lookup_textField field
  obtain ⟨halways, htime⟩ := textField_type field
  have hop : test.op.name ∈ field.cond.ops.map TextOp.name := List.mem_map_of_mem allowed
  have horder {a b c : String × Json} : [b, c, a].Perm [a, b, c] :=
    @List.perm_append_comm _ [b, c] [a]
  have hone {v : Text} (hlist : test.op.name ∉ listOps) (hdump : test.dump = .str v.val) :
      Json.SameMembers
        (conditionRow random (objectMembers (Condition.text field test allowed).dump)).read
        (Condition.text field test allowed).dump ↔ KeepsEnds v.val := by
    rw [← keepsEnds_iff v.property.1]
    refine read_string_iff random rfl rfl hspec hop halways htime rfl hlist v.property.2.1 ?_ ?_
    · rw [← hdump]
      exact horder
    · exact congrArg some hdump
  have hmany {vs : TextList} (hlist : test.op.name ∈ listOps)
      (hdump : test.dump = .arr (vs.val.map fun v => .str v.val)) :
      Json.SameMembers
        (conditionRow random (objectMembers (Condition.text field test allowed).dump)).read
        (Condition.text field test allowed).dump ↔
        ∀ v ∈ vs.val, ',' ∉ v.val.toList ∧ KeepsEnds v.val := by
    have hvalue : test.dump = .arr ((vs.val.map (·.val)).map .str) := by
      rw [hdump, List.map_map]
      rfl
    have hitems : ∀ item ∈ vs.val.map (·.val), strip item = item ∧ item ≠ "" := by
      intro item hitem
      obtain ⟨v, -, rfl⟩ := List.mem_map.mp hitem
      exact ⟨v.property.1, v.property.2.1⟩
    have hne : vs.val.map (·.val) ≠ [] := by
      rw [ne_eq, List.map_eq_nil_iff]
      exact vs.property.1
    have hjoin := listItems_join_iff hne hitems
    rw [List.forall_mem_map] at hjoin
    rw [← hjoin]
    refine read_strings_iff random rfl rfl hspec hop halways htime rfl hlist ?_ ?_
    · rw [← hvalue]
      exact horder
    · exact congrArg some hvalue
  cases test with
  | equals v => exact hone (by decide : "equals" ∉ listOps) rfl
  | notEquals v => exact hone (by decide : "not_equals" ∉ listOps) rfl
  | isIn vs => exact hmany (by decide : "in" ∈ listOps) rfl
  | notIn vs => exact hmany (by decide : "not_in" ∈ listOps) rfl
  | matching v => exact hone (by decide : "matches" ∉ listOps) rfl

theorem read_names_iff (random : String → Suffix) {α : Type} [DecidableEq α] {name : α → String}
    (hname : Function.Injective name) {all value : List α} (hall : all.Nodup) {tag : String}
    (hspec : types.lookup tag = some { ops := ["in"], choices := some (all.map name) })
    (halways : tag ≠ "always") (htime : tag ≠ "time") :
    Json.SameMembers
        (conditionRow random (listMembers tag (.arr ((value.map name).map .str)))).read
        (.obj (listMembers tag (.arr ((value.map name).map .str)))) ↔ value.Sublist all := by
  rw [← filter_names_eq_iff hname hall]
  exact read_choices_iff random rfl rfl hspec (List.mem_singleton_self _) halways htime rfl
    (List.Perm.refl _) rfl

theorem read_authMethod_iff (random : String → Suffix) (value : List AuthMethod) (hne : value ≠ []) :
    Json.SameMembers (conditionRow random (objectMembers (Condition.authMethod value hne).dump)).read
        (Condition.authMethod value hne).dump ↔ value.Sublist AuthMethod.all := by
  have hspec : types.lookup "auth_method" =
      some { ops := ["in"], choices := some (AuthMethod.all.map AuthMethod.name) } := rfl
  have hread := @read_names_iff random _ _ _ AuthMethod.name_injective _ value (by decide) _ hspec
    (by decide) (by decide)
  rwa [List.map_map] at hread

theorem read_deviceStatus_iff (random : String → Suffix) (value : List DeviceState) (hne : value ≠ []) :
    Json.SameMembers (conditionRow random (objectMembers (Condition.deviceStatus value hne).dump)).read
        (Condition.deviceStatus value hne).dump ↔ value.Sublist DeviceState.all := by
  have hspec : types.lookup "device_status" =
      some { ops := ["in"], choices := some (DeviceState.all.map DeviceState.name) } := rfl
  have hread := @read_names_iff random _ _ _ DeviceState.name_injective _ value (by decide) _ hspec
    (by decide) (by decide)
  rwa [List.map_map] at hread

/-! ### MAC addresses -/

theorem keepsEnds_of_forall {s : String} (h : ∀ c ∈ s.toList, c ≠ Js.byteOrderMark) : KeepsEnds s :=
  ⟨fun hhead => h _ (List.mem_of_head? hhead) rfl, fun hlast => h _ (List.mem_of_getLast? hlast) rfl⟩

theorem ne_byteOrderMark_of_isAscii {c : Char} (h : isAscii c = true) : c ≠ Js.byteOrderMark := by
  rintro rfl
  exact absurd h (by decide)

theorem mac_plain (mac : Mac) : ',' ∉ mac.val.toList ∧ KeepsEnds mac.val := by
  obtain ⟨mac, raw, hmac⟩ := mac
  have hchars := plain_of_normalizeMac hmac
  refine ⟨fun hcomma => ?_, keepsEnds_of_forall fun c hc => ne_byteOrderMark_of_isAscii ?_⟩
  · rcases hchars ',' hcomma with hcolon | hhex
    · exact absurd hcolon (by decide)
    · exact absurd hhex.1 (by decide)
  · rcases hchars c hc with rfl | hhex
    · decide
    · have hlt := toNat_lt_of_isHexDigit hhex.1
      exact decide_eq_true (by omega)

theorem read_mac (random : String → Suffix) {test : MacTest} (h : test.Stored) :
    Json.SameMembers (conditionRow random (objectMembers (Condition.mac test).dump)).read
      (Condition.mac test).dump := by
  have hspec : types.lookup "mac" = some { ops := ["equals", "in", "matches"] } := rfl
  cases test with
  | equals mac =>
      refine (read_string_iff random rfl rfl hspec (by decide : "equals" ∈ ["equals", "in", "matches"])
        (by decide) (by decide) rfl (by decide : "equals" ∉ listOps) (isText_mac mac).2.1 (List.Perm.refl _) rfl).mpr ?_
      exact (keepsEnds_iff (isText_mac mac).1).mpr (mac_plain mac).2
  | isIn values =>
      have hvalue : (Json.arr (values.map fun v => .str v.val)) = .arr ((values.map (·.val)).map .str) := by
        rw [List.map_map]
        rfl
      have hread := @read_strings_iff random (objectMembers (Condition.mac (.isIn values)).dump) "mac" "in"
        _ rfl rfl hspec (by decide) (by decide) (by decide) rfl (by decide) (values.map (·.val))
        (by rw [← hvalue]; exact List.Perm.refl _) (by rw [← hvalue]; rfl)
      refine hread.mpr ((listItems_join_iff ?_ ?_).mpr ?_)
      · rw [ne_eq, List.map_eq_nil_iff]
        exact h.1
      · intro item hitem
        obtain ⟨mac, -, rfl⟩ := List.mem_map.mp hitem
        exact ⟨(isText_mac mac).1, (isText_mac mac).2.1⟩
      · intro item hitem
        obtain ⟨mac, -, rfl⟩ := List.mem_map.mp hitem
        exact mac_plain mac
  | matching pattern =>
      obtain ⟨hne, -, hchars⟩ := h
      have hplain := fun c hc => patternChars_plain c (hchars c hc)
      refine (read_string_iff random rfl rfl hspec (by decide : "matches" ∈ ["equals", "in", "matches"])
        (by decide) (by decide) rfl (by decide : "matches" ∉ listOps) hne (List.Perm.refl _) rfl).mpr ?_
      refine (keepsEnds_iff (strip_of_forall fun c hc => (hplain c hc).2.1)).mpr ?_
      exact keepsEnds_of_forall fun c hc => ne_byteOrderMark_of_isAscii (hplain c hc).1

/-! ### Times -/

theorem timeInput_eq_self_iff {s : String} (hs : s ≠ "") : timeInput s = s ↔ isTimeString s = true := by
  rw [timeInput]
  constructor
  · intro h
    by_contra htime
    rw [if_neg htime] at h
    exact hs h.symm
  · exact fun h => if_pos h

theorem hhmm_ne_empty (v : Hhmm) : v.val ≠ "" := by
  intro hempty
  have hbad : isHhmm "" = false := by decide +kernel
  have hgood := v.property
  rw [hempty, hbad] at hgood
  exact Bool.noConfusion hgood

theorem read_time_iff (random : String → Suffix) (cond : TimeCond) :
    Json.SameMembers (conditionRow random (objectMembers (Condition.time cond).dump)).read
        (Condition.time cond).dump ↔ (Condition.time cond).Kept := by
  have hstart := hhmm_ne_empty cond.start
  have hstop := hhmm_ne_empty cond.stop
  have hdays : (cond.days.map fun day => Json.str day.name) = (cond.days.map Day.name).map .str := by
    rw [List.map_map]
    rfl
  have hboxes : (checkedIds (PolicyEditor.days.map
      (dayBox random (stringItems (some (.arr ((cond.days.map Day.name).map .str))))))).map dayOfId =
        PolicyEditor.days.filter fun name => decide (name ∈ cond.days.map Day.name) := by
    rw [stringItems_strings]
    refine read_checked (fun _ => rfl) fun name hname => dayOfId_dayBox random _ ?_
    revert name
    decide
  have hvalue : drawValue random "time" (objectMembers (Condition.time cond).dump) =
      .time (timeInput cond.start.val) (timeInput cond.stop.val) (PolicyEditor.days.map
        (dayBox random (stringItems (some (.arr ((cond.days.map Day.name).map .str)))))) := by
    have htexts : ∀ {s : String} (fallback : String), s ≠ "" → textOr (some (.str s)) fallback = s :=
      fun _ hs => if_neg hs
    rw [← htexts "08:00" hstart, ← htexts "18:00" hstop, ← hdays]
    rfl
  have hread : (conditionRow random (objectMembers (Condition.time cond).dump)).read =
      .obj [("type", .str "time"), ("op", .str "between"),
        ("start", .str (timeInput cond.start.val)), ("end", .str (timeInput cond.stop.val)),
        ("days", .arr ((PolicyEditor.days.filter fun name =>
          decide (name ∈ cond.days.map Day.name)).map .str))] := by
    calc
      _ = Json.obj (("type", .str "time") :: ("op", .str "between") ::
          getValue "between" (drawValue random "time" (objectMembers (Condition.time cond).dump))) := rfl
      _ = _ := by
        have hstrings : ∀ ids : List String, (ids.map fun id => Json.str (dayOfId id)) =
            (ids.map dayOfId).map .str := by
          intro ids
          rw [List.map_map]
          rfl
        rw [hvalue, getValue, hstrings, hboxes]
  rw [hread, Condition.dump, Condition.Kept, ← timeInput_eq_self_iff hstart,
    ← timeInput_eq_self_iff hstop, hdays]
  have hall : Day.all.Nodup := by decide
  rw [← filter_names_eq_iff Day.name_injective hall]
  constructor
  · intro h
    have hsame := Json.sameMembers_obj_iff.mp h
    refine ⟨?_, ?_, ?_⟩
    · exact Json.str.inj (Option.some.inj (hsame "start"))
    · exact Json.str.inj (Option.some.inj (hsame "end"))
    · exact Json.arr_strings_inj.mp (Option.some.inj (hsame "days"))
  · rintro ⟨hstart, hstop, hdays⟩
    have hnames : PolicyEditor.days = Day.all.map Day.name := rfl
    rw [hstart, hstop, hnames, hdays]
    exact Json.sameMembers_obj_iff.mpr fun _ => rfl

/-! ### Conditions -/

theorem read_dump_iff (random : String → Suffix) {cond : Condition} (h : cond.Stored) :
    Json.SameMembers (conditionRow random (objectMembers cond.dump)).read cond.dump ↔ cond.Kept := by
  cases cond with
  | always => exact iff_of_true (Json.sameMembers_obj_iff.mpr fun _ => rfl) trivial
  | text field test allowed => exact read_text_iff random field test allowed
  | authMethod value hne => exact read_authMethod_iff random value hne
  | deviceStatus value hne => exact read_deviceStatus_iff random value hne
  | mac test => exact iff_of_true (read_mac random h) trivial
  | time cond => exact read_time_iff random cond

theorem submitConditions_iff (random : Nat → String → Suffix) {conditions : List Condition}
    (h : ∀ cond ∈ conditions, cond.Stored) :
    List.Forall₂ Json.SameMembers (submitConditions random (conditions.map Condition.dump))
        (conditions.map Condition.dump) ↔ ∀ cond ∈ conditions, cond.Kept := by
  induction conditions generalizing random with
  | nil => exact iff_of_true .nil (List.forall_mem_nil _)
  | cons cond conditions ih =>
      obtain ⟨hcond, hrest⟩ := List.forall_mem_cons.mp h
      rw [List.map_cons, submitConditions, List.mapIdx_cons, List.forall₂_cons, List.forall_mem_cons,
        read_dump_iff (random 0) hcond]
      exact and_congr_right fun _ => ih (fun i => random (i + 1)) hrest

/-! ### Rows of attributes -/

/-- What a row with this value reads. -/
def readOne (value : ReplyValue) : Json :=
  readValue (shown value)

/-- What a name has after the rows of its values, if it had `old` before. -/
def entryRead (k : String) (old : Option Json) (values : List ReplyValue) : Option Json :=
  values.foldl (fun old one => some (nextValue k old (readOne one))) old

theorem sentNumber_ne (value : Option Nat) :
    (∀ s, sentNumber value ≠ .str s) ∧ ∀ items, sentNumber value ≠ .arr items := by
  cases value <;> exact ⟨fun _ => nofun, fun _ => nofun⟩

theorem readOne_ne_arr (value : ReplyValue) (items : List Json) : readOne value ≠ .arr items := by
  unfold readOne readValue
  split
  · exact (sentNumber_ne _).2 items
  · intro h
    cases h

theorem readOne_eq_iff {control : Char → Bool} {value : ReplyValue} (h : value.Plain control) :
    readOne value = value.toJson ↔ value.Kept := by
  cases value with
  | int n =>
      have hbound : n < 2 ^ 53 := by
        have hle : n ≤ 2 ^ 32 - 1 := h
        omega
      refine iff_of_true ?_ trivial
      rw [readOne, readValue, shown, IpAddress.decimal_toString]
      exact congrArg sentNumber (Js.double_of_lt hbound)
  | text s =>
      rw [readOne, readValue, shown, ReplyValue.Kept, ReplyValue.toJson]
      cases IpAddress.decimal s.toList with
      | none => exact iff_of_true rfl rfl
      | some n =>
          exact iff_of_false ((sentNumber_ne _).1 s) (Option.some_ne_none n)

theorem map_readOne_eq_iff {control : Char → Bool} {values : List ReplyValue}
    (h : ∀ value ∈ values, value.Plain control) :
    values.map readOne = values.map ReplyValue.toJson ↔ ∀ value ∈ values, value.Kept := by
  rw [List.map_inj_left]
  exact forall₂_congr fun value hvalue => readOne_eq_iff (h value hvalue)

theorem concatValue_of_not_arr {old value : Json} (h : ∀ items, old ≠ .arr items) :
    concatValue old value = .arr [old, value] := by
  cases old with
  | arr items => exact absurd rfl (h items)
  | _ => rfl

theorem entryRead_arr (k : String) (items : List Json) (values : List ReplyValue) :
    entryRead k (some (.arr items)) values = some (.arr (items ++ values.map readOne)) := by
  induction values generalizing items with
  | nil => rw [List.map_nil, List.append_nil]; rfl
  | cons value values ih =>
      calc
        entryRead k (some (.arr items)) (value :: values) =
            entryRead k (some (.arr (items ++ [readOne value]))) values := rfl
        _ = some (.arr (items ++ (value :: values).map readOne)) := by
          rw [ih, List.append_assoc, List.map_cons, List.singleton_append]

theorem entryRead_inherited {k : String} (hk : k ∈ inheritedNames) (value : ReplyValue)
    (values : List ReplyValue) :
    entryRead k none (value :: values) = some (.arr (.null :: (value :: values).map readOne)) := by
  have hfirst : nextValue k none (readOne value) = .arr [.null, readOne value] := if_pos hk
  calc
    entryRead k none (value :: values) =
        entryRead k (some (nextValue k none (readOne value))) values := rfl
    _ = some (.arr (.null :: (value :: values).map readOne)) := by
      rw [hfirst, entryRead_arr]
      rfl

theorem entryRead_own {k : String} (hk : k ∉ inheritedNames) (value : ReplyValue) :
    entryRead k none [value] = some (readOne value) :=
  congrArg some (if_neg hk)

theorem entryRead_many {k : String} (hk : k ∉ inheritedNames) (first second : ReplyValue)
    (values : List ReplyValue) :
    entryRead k none (first :: second :: values) =
      some (.arr ((first :: second :: values).map readOne)) := by
  have hfirst : nextValue k none (readOne first) = readOne first := if_neg hk
  calc
    entryRead k none (first :: second :: values) =
        entryRead k (some (concatValue (nextValue k none (readOne first)) (readOne second))) values := rfl
    _ = some (.arr ((first :: second :: values).map readOne)) := by
      rw [hfirst, concatValue_of_not_arr (readOne_ne_arr first), entryRead_arr]
      rfl

theorem toJson_ne (value : ReplyValue) : value.toJson ≠ .null ∧ ∀ items, value.toJson ≠ .arr items := by
  cases value <;> exact ⟨nofun, fun _ => nofun⟩

theorem entryRead_eq_iff {control : Char → Bool} {k : String} {entry : ReplyEntry}
    (h : entry.Plain control) :
    entryRead k none (entryValues entry) = some entry.toJson ↔ k ∉ inheritedNames ∧ entry.Kept := by
  by_cases hk : k ∈ inheritedNames
  · refine iff_of_false (fun hread => ?_) fun hkept => hkept.1 hk
    cases entry with
    | one value =>
        rw [entryValues, entryRead_inherited hk] at hread
        exact (toJson_ne value).2 _ (Option.some.inj hread).symm
    | many values =>
        cases values with
        | nil => exact absurd h.1 (by decide)
        | cons value values =>
            rw [entryValues, entryRead_inherited hk, ReplyEntry.toJson, Option.some.injEq, Json.arr.injEq,
              List.map_cons] at hread
            exact (toJson_ne value).1 (List.cons.inj hread).1.symm
  · rw [and_iff_right hk]
    cases entry with
    | one value =>
        rw [entryValues, entryRead_own hk, ReplyEntry.toJson, Option.some.injEq]
        exact readOne_eq_iff h
    | many values =>
        cases values with
        | nil => exact absurd h.1 (by decide)
        | cons first values =>
            cases values with
            | nil =>
                rw [entryValues, entryRead_own hk, ReplyEntry.toJson, Option.some.injEq]
                exact iff_of_false (readOne_ne_arr first _) fun hkept =>
                  absurd hkept.1 (Nat.not_succ_le_self 1)
            | cons second values =>
                rw [entryValues, entryRead_many hk, ReplyEntry.toJson, Option.some.injEq, Json.arr.injEq,
                  map_readOne_eq_iff h.2.2]
                exact (and_iff_right (by simp)).symm

theorem trim_of_isPlainName {name : String} (h : IsPlainName name.toList) :
    Js.trim name = name ∧ name ≠ "" := by
  obtain ⟨hletter, hchars, -⟩ := isPlainName_iff.mp h
  have hplain : ∀ c, isNameChar c = true → Js.isSpace c = false := by
    intro c hc
    by_contra hspace
    have hall : ∀ n ∈ Js.spaces, isNameChar (Char.ofNat n) = false := by decide
    have hcode := hall c.toNat (of_decide_eq_true (Bool.not_eq_false _ ▸ hspace))
    rw [Char.ofNat_toNat, hc] at hcode
    exact Bool.noConfusion hcode
  refine ⟨Js.trim_eq_self_iff.mpr ⟨fun c hc => ?_, fun c hc => ?_⟩, ?_⟩
  · exact hplain c (hchars c (List.mem_of_head? hc))
  · exact hplain c (hchars c (List.mem_of_getLast? hc))
  · rintro rfl
    obtain ⟨c, hhead, -⟩ := hletter
    cases hhead

section Rows

variable {out : Dict String Json} {k : String} (hk : Js.trim k = k ∧ k ≠ "")
include hk

theorem get?_addRow (value : ReplyValue) (name : String) :
    (addRow out (k, shown value)).get? name =
      if name = k then some (nextValue k (out.get? k) (readOne value)) else out.get? name := by
  rw [addRow]
  simp only [hk.1, if_neg hk.2]
  exact Dict.get?_set out k name _

theorem get?_entryRows (values : List ReplyValue) (name : String) :
    ((values.map fun one => (k, shown one)).foldl addRow out).get? name =
      if name = k then entryRead k (out.get? k) values else out.get? name := by
  induction values generalizing out with
  | nil =>
      split
      · next hname => rw [hname]; rfl
      · rfl
  | cons value values ih =>
      rw [List.map_cons, List.foldl_cons, ih, get?_addRow hk, get?_addRow hk, if_pos rfl]
      split <;> rfl

end Rows

theorem get?_rows {attributes : ReplyAttributes} (hnodup : (attributes.map Prod.fst).Nodup)
    (hnames : ∀ entry ∈ attributes, Js.trim entry.1 = entry.1 ∧ entry.1 ≠ "") (out : Dict String Json) :
    (∀ name ∉ attributes.map Prod.fst,
      ((attributeRows attributes).foldl addRow out).get? name = out.get? name) ∧
    ∀ entry ∈ attributes, ((attributeRows attributes).foldl addRow out).get? entry.1 =
      entryRead entry.1 (out.get? entry.1) (entryValues entry.2) := by
  induction attributes generalizing out with
  | nil => exact ⟨fun _ _ => rfl, List.forall_mem_nil _⟩
  | cons first attributes ih =>
      obtain ⟨hfresh, hrest⟩ := List.nodup_cons.mp hnodup
      obtain ⟨hfirst, htrims⟩ := List.forall_mem_cons.mp hnames
      have hrows : (attributeRows (first :: attributes)).foldl addRow out =
          (attributeRows attributes).foldl addRow
            (((entryValues first.2).map fun one => (first.1, shown one)).foldl addRow out) := by
        rw [attributeRows, List.flatMap_cons, List.foldl_append]
        rfl
      obtain ⟨hothers, hentries⟩ := ih hrest htrims
        (((entryValues first.2).map fun one => (first.1, shown one)).foldl addRow out)
      rw [hrows]
      refine ⟨fun name hname => ?_, List.forall_mem_cons.mpr ⟨?_, fun entry hentry => ?_⟩⟩
      · rw [List.map_cons, List.mem_cons, not_or] at hname
        rw [hothers name hname.2, get?_entryRows hfirst, if_neg hname.1]
      · rw [hothers first.1 hfresh, get?_entryRows hfirst, if_pos rfl]
      · have hne : entry.1 ≠ first.1 := fun heq => hfresh (heq ▸ List.mem_map_of_mem hentry)
        rw [hentries entry hentry, get?_entryRows hfirst, if_neg hne]

theorem submitAttributes_iff {control : Char → Bool} {attributes : ReplyAttributes}
    (hnodup : (attributes.map Prod.fst).Nodup)
    (hplain : ∀ entry ∈ attributes, IsPlainName entry.1.toList ∧ entry.2.Plain control) :
    Json.SameMembers (submitAttributes attributes) (dumpAttributes attributes) ↔
      ∀ entry ∈ attributes, entry.1 ∉ inheritedNames ∧ entry.2.Kept := by
  obtain ⟨hothers, hentries⟩ := get?_rows hnodup
    (fun entry hentry => trim_of_isPlainName (hplain entry hentry).1) Dict.empty
  have hnodup' : ((attributes.map fun entry => (entry.1, entry.2.toJson)).map Prod.fst).Nodup := by
    rw [List.map_map]
    exact hnodup
  have hstored : ∀ entry ∈ attributes, Json.member
      (attributes.map fun entry => (entry.1, entry.2.toJson)) entry.1 = some entry.2.toJson :=
    fun entry hentry => (Json.member_eq_some_iff hnodup').mpr (List.mem_map.mpr ⟨entry, hentry, rfl⟩)
  rw [submitAttributes, dumpAttributes, Json.sameMembers_obj_iff]
  simp only [Json.member_items]
  constructor
  · intro h entry hentry
    rw [← entryRead_eq_iff (hplain entry hentry).2, ← hstored entry hentry, ← h entry.1]
    exact (hentries entry hentry).symm
  · intro h name
    by_cases hname : name ∈ attributes.map Prod.fst
    · obtain ⟨entry, hentry, rfl⟩ := List.mem_map.mp hname
      rw [hentries entry hentry, hstored entry hentry]
      exact (entryRead_eq_iff (hplain entry hentry).2).mpr (h entry hentry)
    · rw [hothers name hname, Dict.get?_empty, eq_comm, Option.eq_none_iff_forall_not_mem]
      intro value hvalue
      obtain ⟨entry, hentry, heq⟩ := List.mem_map.mp ((Json.member_eq_some_iff hnodup').mp hvalue)
      cases heq
      exact hname (List.mem_map_of_mem hentry)

/-! ### Policies -/

/-- Opening a policy and saving it, whatever the random parts of the ids, submits what is stored. -/
def EditorKeeps (conditions : List Condition) (attributes : ReplyAttributes) : Prop :=
  ∀ random : Nat → String → Suffix,
    List.Forall₂ Json.SameMembers (submitConditions random (conditions.map Condition.dump))
        (conditions.map Condition.dump) ∧
      Json.SameMembers (submitAttributes attributes) (dumpAttributes attributes)

/-- What the checks of the API make of the attributes of a body. -/
def ReplyAttributes.Stored (attributes : ReplyAttributes) : Prop :=
  (attributes.map Prod.fst).Nodup ∧
    ∀ entry ∈ attributes, IsPlainName entry.1.toList ∧ entry.2.Plain isAsciiControl

/-- The columns of a row hold these conditions and attributes. -/
def Policy.Holds (row : Policy) (conditions : List Condition) (attributes : ReplyAttributes) : Prop :=
  row.conditions = dumpConditions conditions ∧ row.replyAttributes = dumpAttributes attributes

theorem editorKeeps_iff {conditions : List Condition} {attributes : ReplyAttributes}
    (hconditions : ∀ cond ∈ conditions, cond.Stored) (hattributes : attributes.Stored) :
    EditorKeeps conditions attributes ↔
      (∀ cond ∈ conditions, cond.Kept) ∧ ∀ entry ∈ attributes, entry.1 ∉ inheritedNames ∧ entry.2.Kept := by
  unfold EditorKeeps
  simp only [submitConditions_iff _ hconditions, submitAttributes_iff hattributes.1 hattributes.2]
  exact ⟨fun h => h fun _ _ => ⟨"", List.not_mem_nil⟩, fun h _ => h⟩

theorem stored_of_parseConditions {items : List Json} {conditions : List Condition}
    (h : parseConditions (.arr items) = .ok conditions) : ∀ cond ∈ conditions, cond.Stored := by
  intro cond hcond
  obtain ⟨item, -, hitem⟩ := forall₂_mem_right (parseConditions_arr_iff.mp h).2 hcond
  exact stored_of_validateCondition hitem

theorem stored_of_validateReplyAttributes {dictionary : RadiusDictionary} (hfile : dictionary.OfFile)
    {members : List (String × Json)} {attributes : ReplyAttributes}
    (h : validateReplyAttributes (.obj members) dictionary = .ok attributes) : attributes.Stored := by
  obtain ⟨-, checked, hchecked, rfl⟩ := validateReplyAttributes_obj_iff.mp h
  refine ⟨(updateWith Dict.empty checked).nodup, fun entry hentry => ?_⟩
  obtain ⟨source, -, hcheck⟩ := forall₂_mem_right hchecked (mem_updateWith_empty hentry)
  obtain ⟨hname, -, hnamed, hvalue⟩ := checkAttribute_eq_ok_iff.mp hcheck
  refine ⟨?_, (plain_of_checkEntry hvalue).1⟩
  simp only [keptName, known] at hnamed
  split at hnamed
  · next spelled hspelled =>
      obtain rfl : spelled = entry.1 := Except.ok.inj hnamed
      exact (isPlainName_spelled hfile hname hspelled).1
  · cases hnamed

/-- The API only stores conditions and attributes that it has checked. -/
theorem rowInvariant_holds {dictionary : RadiusDictionary} (hfile : dictionary.OfFile) :
    RowInvariant dictionary fun row => ∃ conditions attributes, row.Holds conditions attributes ∧
      (∀ cond ∈ conditions, cond.Stored) ∧ attributes.Stored where
  created hvalid id := by
    obtain ⟨hconditions, hattributes⟩ := columns_of_validate hvalid
    exact ⟨_, _, ⟨rfl, rfl⟩, stored_of_parseConditions hconditions,
      stored_of_validateReplyAttributes hfile hattributes⟩
  changed {_ accepted} hvalid row hrow := by
    obtain ⟨conditions, attributes, ⟨hconditions, hattributes⟩, hstored, hplain⟩ := hrow
    have hcolumn : ∃ conditions, (accepted.apply row).conditions = dumpConditions conditions ∧
        ∀ cond ∈ conditions, cond.Stored := by
      rcases conditions_apply hvalid row with ⟨-, hsame⟩ | ⟨raw, submitted, -, hparse, hnew⟩
      · exact ⟨conditions, hsame.trans hconditions, hstored⟩
      · exact ⟨submitted, hnew, stored_of_parseConditions hparse⟩
    obtain ⟨conditions', hconditions', hstored'⟩ := hcolumn
    rcases replyAttributes_apply hvalid row with hsame | ⟨raw, attributes', hvalid', hnew⟩
    · exact ⟨conditions', attributes, ⟨hconditions', hsame.trans hattributes⟩, hstored', hplain⟩
    · exact ⟨conditions', attributes', ⟨hconditions', hnew⟩, hstored',
        stored_of_validateReplyAttributes hfile hvalid'⟩
  moved row priority hrow := hrow

/-- What a run of the API has stored goes through the editor unchanged exactly when no text has a byte
order mark at its ends, no item of a list a comma, the names and days of a list stand in the order of
their boxes without repetition, times are written with a colon, no text of an attribute is a number, and
an attribute with a list of values has at least two. -/
theorem policy_editor_keeps_iff (dictionary : RadiusDictionary) (hfile : dictionary.OfFile)
    (calls : List (AdminRole × PolicyCall)) (db : Database) (hdb : db.val.policies = []) (row : Policy)
    (hrow : row ∈ (runPolicyCalls dictionary calls db).val.policies) :
    ∃ conditions attributes, row.Holds conditions attributes ∧
      (EditorKeeps conditions attributes ↔
        (∀ cond ∈ conditions, cond.Kept) ∧
          ∀ entry ∈ attributes, entry.1 ∉ inheritedNames ∧ entry.2.Kept) := by
  obtain ⟨conditions, attributes, hholds, hconditions, hattributes⟩ :=
    (rowInvariant_holds hfile).runPolicyCalls calls (by simp [hdb]) row hrow
  exact ⟨conditions, attributes, hholds, editorKeeps_iff hconditions hattributes⟩

theorem policy_editor_keeps_staff :
    ∃ row ∈ (runPolicyCalls smallDictionary [(.superuser, .create staffBody)]
        ⟨{}, Tables.consistent_empty⟩).val.policies,
      ∃ conditions attributes, row.Holds conditions attributes ∧
        (EditorKeeps conditions attributes ↔
          (∀ cond ∈ conditions, cond.Kept) ∧
            ∀ entry ∈ attributes, entry.1 ∉ inheritedNames ∧ entry.2.Kept) := by
  have hne : (runPolicyCalls smallDictionary [(.superuser, .create staffBody)]
      ⟨{}, Tables.consistent_empty⟩).val.policies ≠ [] := by
    decide +kernel
  obtain ⟨row, hrow⟩ := List.exists_mem_of_ne_nil _ hne
  exact ⟨row, hrow, policy_editor_keeps_iff smallDictionary smallDictionary_ofFile _ _ rfl row hrow⟩

/-- A group whose name has a comma in it. -/
def eveningBody : PolicyBody where
  name := "evening"
  conditions := [[("type", .str "group"), ("op", .str "in"), ("value", .arr [.str "staff, evening"])]]
  action := .permit

def eveningCondition : Condition :=
  .text .group (.isIn ⟨[⟨"staff, evening", by decide⟩], by decide⟩) (by decide)

theorem evening_split_by_editor :
    (∃ row ∈ (runPolicyCalls smallDictionary [(.superuser, .create eveningBody)]
        ⟨{}, Tables.consistent_empty⟩).val.policies, row.Holds [eveningCondition] []) ∧
      ¬ EditorKeeps [eveningCondition] [] := by
  refine ⟨⟨_, List.mem_singleton_self _, rfl, rfl⟩, fun hkeeps => ?_⟩
  have hstored : ∀ cond ∈ [eveningCondition], cond.Stored := by
    intro cond hcond
    rw [List.mem_singleton.mp hcond]
    trivial
  have hnone : ReplyAttributes.Stored [] := ⟨List.nodup_nil, List.forall_mem_nil _⟩
  have hkept := ((editorKeeps_iff hstored hnone).mp hkeeps).1 _ (List.mem_singleton_self _)
  exact (hkept _ (List.mem_singleton_self _)).1 (by decide)

end Naco
