import Naco.Lib.Casefold
import Naco.Proof.Engine

/-!
# What policies can tell apart

Two contexts are alike when no condition tells them apart; then no policy set does either. Groups and
NAS names are only looked up in lists, so of these it is enough that no list tells them apart; the
address of the NAS is not read at all.

For the other direction there are probes: policy tables with one permit policy on one condition. A
probe answers PERMIT in a context its condition holds in and the default DENY in another.
-/

namespace Naco

open Py

/-- No condition tells the contexts apart. -/
def Alike (ctx ctx' : AuthContext) : Prop :=
  ∀ (cond : Condition) (tz : Zone), conditionMatches cond ctx tz = conditionMatches cond ctx' tz

namespace Alike

variable {ctx ctx' : AuthContext}

theorem allMatch_eq (h : Alike ctx ctx') (tz : Zone) (conds : List Condition) :
    allMatch ctx tz conds = allMatch ctx' tz conds := by
  induction conds with
  | nil => rfl
  | cons cond conds ih => rw [allMatch, allMatch, h cond tz, ih]

theorem decide_eq (h : Alike ctx ctx') (policies : List CompiledPolicy) (tz : Zone) :
    Naco.decide policies ctx tz = Naco.decide policies ctx' tz := by
  induction policies with
  | nil => rfl
  | cons policy policies ih =>
      rw [Naco.decide, Naco.decide, CompiledPolicy.matches, CompiledPolicy.matches,
        h.allMatch_eq tz, ih]

end Alike

/-- A list that holds `text` has the value in it. -/
def Named (text : Text) (value : Option String) : Prop :=
  ∃ s, value = some s ∧ casefold text.val = casefold s

/-- A group condition can name the group. -/
def Nameable (group : String) : Prop :=
  ∃ text : Text, casefold text.val = casefold group

/-- No list tells the values apart. -/
def NamedAlike (value value' : Option String) : Prop :=
  ∀ text : Text, Named text value ↔ Named text value'

theorem casefold_ne_empty {s : String} (h : s ≠ "") : casefold s ≠ "" := by
  intro hfold
  have hchars : s.toList ≠ [] := fun hnil => h (String.toList_eq_nil_iff.mp hnil)
  obtain ⟨c, cs, hcs⟩ := List.exists_cons_of_ne_nil hchars
  have hnil : (casefold s).toList = [] := String.toList_eq_nil_iff.mpr hfold
  rw [casefold, String.toList_ofList, hcs, List.flatMap_cons] at hnil
  exact foldChar_ne_nil c (List.append_eq_nil_iff.mp hnil).1

theorem fold_mem_iff {values : TextList} {value : Option String} :
    fold value ∈ values.val.map (fun v => fold (some v.val)) ↔ ∃ v ∈ values.val, Named v value := by
  rw [List.mem_map]
  refine exists_congr fun v => and_congr_right fun _ => ?_
  cases value with
  | some s => simp [fold, Named]
  | none =>
      have hne : casefold v.val ≠ casefold "" := fun heq =>
        casefold_ne_empty v.property.2.1 (heq.trans (by decide))
      simp [fold, Named, hne]

/-- Values that no list tells apart pass the same list tests. -/
theorem NamedAlike.test_eq {value value' : Option String} (h : NamedAlike value value')
    {test : TextTest} (hop : test.op ∈ [TextOp.isIn, .notIn]) : test.test value = test.test value' := by
  have hmem : ∀ values : TextList,
      (∃ v ∈ values.val, Named v value) ↔ ∃ v ∈ values.val, Named v value' := fun values =>
    exists_congr fun v => and_congr_right fun _ => h v
  have hin : ∀ (values : TextList) (value : Option String),
      (TextTest.isIn values).test value = true ↔ ∃ v ∈ values.val, Named v value := by
    intro values value
    cases value with
    | some s => rw [← fold_mem_iff, TextTest.test, Option.isSome_some, Bool.true_and, decide_eq_true_eq]
    | none => simp [TextTest.test, Named]
  cases test with
  | isIn values => rw [Bool.eq_iff_iff, hin, hin, hmem]
  | notIn values =>
      simp only [TextTest.test]
      rw [decide_eq_decide, fold_mem_iff, fold_mem_iff, hmem]
  | equals value => simp [TextTest.op] at hop
  | notEquals value => simp [TextTest.op] at hop
  | matching value => simp [TextTest.op] at hop

/-- Conditions on the group and on the NAS are lists, and the NAS address is not read. -/
theorem alike_of_namedAlike {ctx : AuthContext} {group : Option String} {nasName : String}
    (nasIp : String) (hgroup : NamedAlike ctx.group group)
    (hnas : NamedAlike (orNone ctx.nasName) (orNone nasName)) :
    Alike ctx { ctx with group, nasName, nasIp } := by
  intro cond tz
  cases cond with
  | always => rfl
  | authMethod value hne => rfl
  | deviceStatus value hne => rfl
  | mac test => rfl
  | time cond => rfl
  | text field test hop =>
      cases field with
      | group => exact congrArg Except.ok (hgroup.test_eq hop)
      | nas => exact congrArg Except.ok (hnas.test_eq hop)
      | _ => rfl

/-! ### Probes -/

/-- A permit policy on the one condition `raw`. -/
def probePolicy (raw : Json) : Policy where
  id := 1
  name := "probe"
  conditions := .arr [raw]
  action := .permit

/-- The tables with the probe as their only policy. -/
def Tables.withProbe (t : Tables) (raw : Json) : Tables :=
  { t with policies := [probePolicy raw] }

theorem withProbe_consistent {t : Tables} (ht : t.Consistent) (raw : Json) :
    (t.withProbe raw).Consistent :=
  { ht with
    policyIds := List.nodup_singleton _
    policyNames := List.nodup_singleton _
    policyVlans := by simp [Tables.withProbe, probePolicy] }

/-- A probe that validates to `cond`. -/
def probe (cond : Condition) : CompiledPolicy where
  id := 1
  name := "probe"
  priority := 100
  action := .permit
  vlan := none
  replyAttributes := []
  conditions := [cond]

theorem loadPolicies_withProbe (t : Tables) {raw : Json} {cond : Condition}
    (h : parseConditions (.arr [raw]) = .ok [cond]) :
    loadPolicies (t.withProbe raw) = .ok [probe cond] := by
  rw [loadPolicies_eq_ok_iff]
  have hrows : enabledPolicies (t.withProbe raw) = [probePolicy raw] := rfl
  have hattributes : validateReplyAttributes (probePolicy raw).replyAttributes = .ok [] := rfl
  have hcompile : compilePolicy (probePolicy raw) = .ok (probe cond) := by
    rw [compilePolicy, hattributes]
    dsimp only
    rw [show (probePolicy raw).conditions = .arr [raw] from rfl, h]
    rfl
  rw [hrows]
  exact .cons hcompile .nil

theorem decide_probe {cond : Condition} {ctx : AuthContext} {tz : Zone} {result : Bool}
    (h : conditionMatches cond ctx tz = .ok result) :
    Naco.decide [probe cond] ctx tz =
      .ok (if result then (probe cond).decision else deny defaultDenyReason) := by
  have hmatches : (probe cond).matches ctx tz = .ok result := by
    rw [CompiledPolicy.matches, probe, allMatch, h]
    cases result <;> rfl
  rw [Naco.decide, hmatches]
  cases result <;> rfl

def alwaysProbe : Json :=
  .obj [("type", .str "always")]

def pendingProbe : Json :=
  .obj [("type", .str "device_status"), ("value", .arr [.str "pending"])]

def anyVendorProbe : Json :=
  .obj [("type", .str "vendor"), ("op", .str "matches"), ("value", .str "*")]

/-- A list condition with one text, as an administrator may have typed it. -/
def listProbe (field : TextField) (raw : String) : Json :=
  .obj [("type", .str field.cond.type), ("op", .str "in"), ("value", .arr [.str raw])]

theorem parse_alwaysProbe : parseConditions (.arr [alwaysProbe]) = .ok [.always] :=
  rfl

theorem parse_pendingProbe :
    parseConditions (.arr [pendingProbe]) = .ok [.deviceStatus [.pending] (by simp)] :=
  rfl

theorem parse_anyVendorProbe :
    parseConditions (.arr [anyVendorProbe]) =
      .ok [.text .vendor (.matching ⟨"*", by decide⟩) (by decide)] :=
  rfl

def oneText (text : Text) : TextList :=
  ⟨[text], by simp, by simp [maxItems]⟩

theorem isIn_allowed (field : TextField) (values : TextList) :
    (TextTest.isIn values).op ∈ field.cond.ops := by
  have hin : ∀ field : TextField, TextOp.isIn ∈ field.cond.ops := by rintro ⟨⟩ <;> decide
  exact hin field

theorem textList_oneText {text : Text} {raw : String} (hraw : strip raw = text.val) (what : String) :
    textList (.list [raw]) what = .ok (oneText text) := by
  have htext : textOfString raw what = .ok text := by
    obtain ⟨text, hstrip, hne, hlen⟩ := text
    simp [textOfString, hraw, hne, hlen]
  have hitems : textItems what [raw] = .ok ⟨[text], rfl⟩ := by
    rw [textItems, htext]
    rfl
  rw [textList, dif_neg (by simp), dif_pos (by simp [maxItems]), hitems]
  rfl

theorem validateText_listProbe (field : TextField) {text : Text} {raw : String}
    (hraw : strip raw = text.val) :
    validateText field
        [("type", .str field.cond.type), ("op", .str "in"), ("value", .arr [.str raw])] =
      .ok (.text field (.isIn (oneText text)) (isIn_allowed field _)) := by
  set members : List (String × Json) :=
    [("type", .str field.cond.type), ("op", .str "in"), ("value", .arr [.str raw])]
  have hop : requiredField members "op" (validateLiteral field.cond.ops TextOp.name) =
      .ok ⟨.isIn, isIn_allowed field (oneText text)⟩ := by
    cases field <;> rfl
  have hvalue : requiredField members "value" validateOperand = .ok (.list [raw]) := rfl
  have hextra : forbidExtra members ["op", "value", "type"] = .ok () := rfl
  unfold validateText
  rw [hop, hvalue, hextra]
  simp only [bind, Except.bind, TextTest.shape, textList_oneText hraw, Except.map, pure, Except.pure]

theorem parse_listProbe (field : TextField) {text : Text} {raw : String}
    (hraw : strip raw = text.val) :
    parseConditions (.arr [listProbe field raw]) =
      .ok [.text field (.isIn (oneText text)) (isIn_allowed field _)] := by
  have hmodel : conditionModels.lookup field.cond.type = some (validateText field) := by
    cases field <;> rfl
  have hvalidate : validateCondition (listProbe field raw) =
      .ok (.text field (.isIn (oneText text)) (isIn_allowed field _)) := by
    have htype : Json.member
        [("type", .str field.cond.type), ("op", .str "in"), ("value", .arr [.str raw])] "type" =
        some (.str field.cond.type) := rfl
    rw [listProbe, validateCondition, htype]
    dsimp only
    rw [hmodel]
    dsimp only
    rw [validateText_listProbe field hraw]
    rfl
  rw [parseConditions, if_neg (by simp [maxConditions]), validateItems, hvalidate]
  rfl

theorem test_oneText_iff {text : Text} {value : Option String} :
    (TextTest.isIn (oneText text)).test value = true ↔ Named text value := by
  cases value with
  | none => simp [TextTest.test, Named]
  | some s => simp [TextTest.test, oneText, fold, Named, eq_comm]

end Naco
