import Naco.App
import Naco.Lib.JsonText
import Naco.Lib.Rows
import Naco.Proof.Attributes
import Naco.Proof.Engine

/-!
# The digest and the reply

The digest hashes a document with sorted names, the reply is one flat object that the VLAN and the
attributes of the policy are written into. Both determine the VLAN and the attributes, and neither says
more: no attribute is called like one of the reply's own, and the document is read in one way.
-/

namespace Naco

open Py

/-! ### Written values -/

/-- A value begins with a digit or a quote. -/
theorem ReplyValue.dump_first (value : ReplyValue) :
    ∃ c cs, value.dump.toList = c :: cs ∧ (c.isDigit = true ∨ c = '"') := by
  cases value with
  | int number =>
      obtain ⟨c, cs, hcs⟩ := List.exists_cons_of_ne_nil (@Nat.toDigits_ne_nil number 10)
      refine ⟨c, cs, ?_, .inl ?_⟩
      · rw [dump, Nat.toString_eq_ofList_toDigits, String.toList_ofList, hcs]
      · exact Nat.isDigit_of_mem_toDigits (by decide) (by decide) (hcs ▸ List.mem_cons_self)
  | text text => exact ⟨'"', _, by rw [dump, dumpString, String.toList_ofList]; rfl, .inr rfl⟩

theorem ReplyValue.delimited_dump : Delimited ReplyValue.dump := by
  intro a b rest rest' hends hends' h
  have hmixed : ∀ (number : Nat) (text : String) (rest rest' : List Char),
      (ReplyValue.int number).dump.toList ++ rest ≠ (ReplyValue.text text).dump.toList ++ rest' := by
    intro number text rest rest' heq
    obtain ⟨c, cs, hcs⟩ := List.exists_cons_of_ne_nil (@Nat.toDigits_ne_nil number 10)
    rw [dump, dump, Nat.toString_eq_ofList_toDigits, String.toList_ofList, hcs, dumpString,
      String.toList_ofList] at heq
    have hdigit : c.isDigit = true :=
      Nat.isDigit_of_mem_toDigits (by decide) (by decide) (hcs ▸ List.mem_cons_self)
    rw [(List.cons.inj heq).1] at hdigit
    exact absurd hdigit (by decide)
  cases a with
  | int a =>
      cases b with
      | int b =>
          obtain ⟨rfl, hrest⟩ := delimited_toString hends hends' h
          exact ⟨rfl, hrest⟩
      | text b => exact absurd h (hmixed a b rest rest')
  | text a =>
      cases b with
      | int b => exact absurd h.symm (hmixed b a rest' rest)
      | text b =>
          obtain ⟨rfl, hrest⟩ := dumpString_append h
          exact ⟨rfl, hrest⟩

theorem ReplyEntry.delimited_dump : Delimited ReplyEntry.dump := by
  intro a b rest rest' hends hends' h
  have hmixed : ∀ (value : ReplyValue) (values : List ReplyValue) (rest rest' : List Char),
      (ReplyEntry.one value).dump.toList ++ rest ≠ (ReplyEntry.many values).dump.toList ++ rest' := by
    intro value values rest rest' heq
    obtain ⟨c, cs, hcs, hfirst⟩ := value.dump_first
    rw [dump, hcs, dump, dumpArray, String.toList_append, String.toList_append] at heq
    obtain rfl : c = '[' := (List.cons.inj heq).1
    exact absurd hfirst (by decide)
  cases a with
  | one a =>
      cases b with
      | one b =>
          obtain ⟨rfl, hrest⟩ := ReplyValue.delimited_dump hends hends' h
          exact ⟨rfl, hrest⟩
      | many b => exact absurd h (hmixed a b rest rest')
  | many a =>
      cases b with
      | one b => exact absurd h.symm (hmixed b a rest' rest)
      | many b =>
          have hfirst : ∀ value : ReplyValue, ∃ c cs, value.dump.toList = c :: cs ∧ c ≠ ']' := by
            intro value
            obtain ⟨c, cs, hcs, hc⟩ := value.dump_first
            refine ⟨c, cs, hcs, ?_⟩
            rintro rfl
            exact absurd hc (by decide)
          simp only [dump, dumpArray, String.toList_append, List.append_assoc] at h
          obtain ⟨rfl, hrest⟩ := delimited_items ReplyValue.delimited_dump (by decide) hfirst
            (List.cons.inj h).2
          exact ⟨rfl, hrest⟩

/-- One attribute of the document. -/
def dumpEntry (entry : String × ReplyEntry) : String :=
  dumpString entry.1 ++ ":" ++ entry.2.dump

theorem delimited_dumpEntry : Delimited dumpEntry := by
  rintro ⟨name, value⟩ ⟨name', value'⟩ rest rest' hends hends' h
  simp only [dumpEntry, String.toList_append, List.append_assoc] at h
  obtain ⟨rfl, hcolon⟩ := dumpString_append h
  obtain ⟨rfl, hrest⟩ := ReplyEntry.delimited_dump hends hends' (List.cons.inj hcolon).2
  exact ⟨rfl, hrest⟩

theorem dumpEntry_first (entry : String × ReplyEntry) :
    ∃ c cs, (dumpEntry entry).toList = c :: cs ∧ c ≠ '\x7d' := by
  refine ⟨'"', entry.1.toList.flatMap dumpChar ++ ['"'] ++ ":".toList ++ entry.2.dump.toList, ?_, by decide⟩
  simp [dumpEntry, dumpString]

/-- The attributes in the order of their names. -/
def sortedAttributes (attributes : ReplyAttributes) : ReplyAttributes :=
  attributes.insertionSort fun a b => a.1 ≤ b.1

theorem dumpObject_attributes (attributes : ReplyAttributes) :
    dumpObject (attributes.map fun entry => (entry.1, entry.2.dump)) =
      "\x7b" ++ join "," ((sortedAttributes attributes).map dumpEntry) ++ "\x7d" := by
  have hsorted : (attributes.map fun entry => (entry.1, entry.2.dump)).insertionSort
      (fun a b => a.1 ≤ b.1) = (sortedAttributes attributes).map fun entry => (entry.1, entry.2.dump) :=
    (List.map_insertionSort (fun a b : String × ReplyEntry => a.1 ≤ b.1)
      (fun a b : String × String => a.1 ≤ b.1) (fun entry => (entry.1, entry.2.dump)) attributes
      fun _ _ _ _ => Iff.rfl).symm
  rw [dumpObject, hsorted, List.map_map]
  rfl

/-! ### The document -/

def dumpVlan (vlan : Option Nat) : String :=
  (vlan.map toString).getD "null"

theorem delimited_dumpVlan : Delimited dumpVlan := by
  intro a b rest rest' hends hends' h
  have hmixed : ∀ (number : Nat) (rest rest' : List Char),
      (dumpVlan none).toList ++ rest ≠ (dumpVlan (some number)).toList ++ rest' := by
    intro number rest rest' heq
    obtain ⟨c, cs, hcs⟩ := List.exists_cons_of_ne_nil (@Nat.toDigits_ne_nil number 10)
    have hdigit : c.isDigit = true :=
      Nat.isDigit_of_mem_toDigits (by decide) (by decide) (hcs ▸ List.mem_cons_self)
    rw [dumpVlan, dumpVlan, Option.map_some, Option.getD_some, Nat.toString_eq_ofList_toDigits,
      String.toList_ofList, hcs] at heq
    rw [← (List.cons.inj heq).1] at hdigit
    exact absurd hdigit (by decide)
  cases a with
  | none =>
      cases b with
      | none => exact ⟨rfl, List.append_cancel_left h⟩
      | some b => exact absurd h (hmixed b rest rest')
  | some a =>
      cases b with
      | none => exact absurd h.symm (hmixed a rest' rest)
      | some b =>
          obtain ⟨rfl, hrest⟩ := delimited_toString hends hends' h
          exact ⟨rfl, hrest⟩

theorem dumpObject_three (action vlan attributes : String) :
    dumpObject [("action", action), ("vlan", vlan), ("attrs", attributes)] =
      "\x7b\"action\":" ++ action ++ ",\"attrs\":" ++ attributes ++ ",\"vlan\":" ++ vlan ++ "\x7d" := by
  have hsorted : [("action", action), ("vlan", vlan), ("attrs", attributes)].insertionSort
      (fun a b : String × String => a.1 ≤ b.1) =
        [("action", action), ("attrs", attributes), ("vlan", vlan)] := by
    have hvlan : "vlan" ≤ "attrs" ↔ False := by decide
    have hattrs : "action" ≤ "attrs" ↔ True := by decide
    simp only [List.insertionSort_cons, List.insertionSort_nil, List.orderedInsert_nil,
      List.orderedInsert_cons, hvlan, hattrs, if_true, if_false]
  have haction : dumpString "action" = "\"action\"" := by decide
  have hattrs : dumpString "attrs" = "\"attrs\"" := by decide
  have hvlan : dumpString "vlan" = "\"vlan\"" := by decide
  rw [dumpObject, hsorted]
  simp only [List.map_cons, List.map_nil, haction, hattrs, hvlan]
  rw [← String.toList_inj]
  simp [join, List.intercalate]

theorem document_eq (decision : Decision) :
    decision.document = "\x7b\"action\":" ++ dumpString decision.action.value ++ ",\"attrs\":" ++
      ("\x7b" ++ join "," ((sortedAttributes decision.replyAttributes).map dumpEntry) ++ "\x7d") ++
        ",\"vlan\":" ++ dumpVlan decision.vlan ++ "\x7d" := by
  rw [Decision.document, dumpObject_three, dumpObject_attributes]
  rfl

/-- The document says the action, the VLAN and the attributes. -/
theorem document_eq_iff (a b : Decision) :
    a.document = b.document ↔ a.action = b.action ∧ a.vlan = b.vlan ∧
      sortedAttributes a.replyAttributes = sortedAttributes b.replyAttributes := by
  constructor
  · intro h
    rw [document_eq, document_eq, ← String.toList_inj] at h
    simp only [String.toList_append, List.append_assoc] at h
    obtain ⟨haction, hattrs⟩ := dumpString_append (List.append_cancel_left h)
    have hopen := List.append_cancel_left (List.append_cancel_left hattrs)
    obtain ⟨hattributes, hvlan⟩ := delimited_items delimited_dumpEntry (by decide) dumpEntry_first hopen
    have hend : Ends "\x7d".toList := ends_cons (by decide) _
    obtain ⟨hvlan, -⟩ := delimited_dumpVlan hend hend (List.append_cancel_left hvlan)
    refine ⟨?_, hvlan, hattributes⟩
    cases ha : a.action <;> cases hb : b.action <;> rw [ha, hb] at haction <;>
      first | rfl | exact absurd haction (by decide)
  · rintro ⟨haction, hvlan, hattributes⟩
    rw [document_eq, document_eq, haction, hvlan, hattributes]

/-! ### The reply -/

/-- The decision permits, its VLAN is one that a row may have, and no attribute is called like one of the
reply's own. -/
structure Decision.Sendable (decision : Decision) : Prop where
  accepted : decision.accepted = true
  vlan : ∀ vlan ∈ decision.vlan, 1 ≤ vlan
  names : (decision.replyAttributes.map (·.1)).Nodup
  free : ∀ entry ∈ decision.replyAttributes, entry.1 ∉ ownNames

/-- The objects have the same members, whatever their order. -/
def SameObject (a b : List (String × RlmAttribute)) : Prop :=
  ∀ entry, entry ∈ a ↔ entry ∈ b

theorem mem_authorizeReply {decision : Decision} {entry : String × RlmAttribute} :
    entry ∈ authorizeReply decision ↔
      entry.2.doXlat = false ∧ (authorizeOut decision).get? entry.1 = some entry.2.value := by
  obtain ⟨name, value, doXlat⟩ := entry
  rw [authorizeReply, List.mem_map, Dict.get?_eq_some_iff]
  constructor
  · rintro ⟨item, hitem, hentry⟩
    cases hentry
    exact ⟨rfl, hitem⟩
  · rintro ⟨rfl, hitem⟩
    exact ⟨_, hitem, rfl⟩

theorem sameObject_iff_get? {a b : Decision} :
    SameObject (authorizeReply a) (authorizeReply b) ↔
      ∀ name, (authorizeOut a).get? name = (authorizeOut b).get? name := by
  constructor
  · intro h name
    ext value
    have hentry := h (name, ⟨value, false⟩)
    rw [mem_authorizeReply, mem_authorizeReply] at hentry
    simpa using hentry
  · intro h entry
    rw [mem_authorizeReply, mem_authorizeReply, h]

theorem get?_updateWith_of_mem {out : Dict String ReplyEntry} {attributes : ReplyAttributes}
    (hnodup : (attributes.map (·.1)).Nodup) {entry : String × ReplyEntry} (hentry : entry ∈ attributes) :
    (updateWith out attributes).get? entry.1 = some entry.2 := by
  induction attributes generalizing out with
  | nil => cases hentry
  | cons head attributes ih =>
      obtain ⟨hfresh, hrest⟩ := List.nodup_cons.mp hnodup
      rcases List.mem_cons.mp hentry with rfl | hmem
      · have hother : ∀ other ∈ attributes, other.1 ≠ entry.1 := by
          intro other hother hsame
          exact hfresh (List.mem_map.mpr ⟨other, hother, hsame⟩)
        calc (updateWith out (entry :: attributes)).get? entry.1
            = (updateWith (out.set entry.1 entry.2) attributes).get? entry.1 := rfl
          _ = (out.set entry.1 entry.2).get? entry.1 := get?_updateWith_of_not_mem hother
          _ = some entry.2 := by rw [Dict.get?_set, if_pos rfl]
      · exact ih hrest hmem

/-- What the reply says but for the attributes of the policy. -/
def ownPart (vlan : Option Nat) : Dict String ReplyEntry :=
  let out := Dict.empty.set "control:NACo-Decision" (.one (.text "accept"))
  match vlan with
  | some (vlan + 1) => updateWith out (vlanAttributes (vlan + 1))
  | _ => out

theorem authorizeOut_eq {decision : Decision} (h : decision.accepted = true) :
    authorizeOut decision = updateWith (ownPart decision.vlan) decision.replyAttributes := by
  unfold authorizeOut ownPart
  refine (if_neg (by simp [h])).trans ?_
  rcases decision.vlan with _ | _ | vlan <;> rfl

theorem get?_ownPart_of_not_mem {vlan : Option Nat} {name : String} (hname : name ∉ ownNames) :
    (ownPart vlan).get? name = none := by
  simp only [ownNames, List.mem_cons, List.not_mem_nil, or_false, not_or] at hname
  obtain ⟨hdecision, htype, hmedium, hgroup⟩ := hname
  rcases vlan with _ | _ | vlan <;>
    simp only [ownPart, updateWith, vlanAttributes, List.foldl_cons, List.foldl_nil, Dict.get?_set,
      Dict.get?_empty, hdecision, htype, hmedium, hgroup, if_false]

theorem get?_ownPart_vlan {vlan : Option Nat} (h : ∀ id ∈ vlan, 1 ≤ id) :
    (ownPart vlan).get? "Tunnel-Private-Group-Id" = vlan.map fun id => .one (.text (toString id)) := by
  rcases vlan with _ | _ | vlan
  · rfl
  · exact absurd (h 0 rfl) (by decide)
  · simp [ownPart, updateWith, vlanAttributes]

theorem vlan_of_get? {a b : Option Nat} (ha : ∀ id ∈ a, 1 ≤ id) (hb : ∀ id ∈ b, 1 ≤ id)
    (h : (ownPart a).get? "Tunnel-Private-Group-Id" = (ownPart b).get? "Tunnel-Private-Group-Id") :
    a = b := by
  rw [get?_ownPart_vlan ha, get?_ownPart_vlan hb] at h
  refine Option.map_injective (fun id id' hid => ?_) h
  simp only [ReplyEntry.one.injEq, ReplyValue.text.injEq] at hid
  exact repr_injective hid

section Reply

variable {a b : Decision}

theorem get?_authorizeOut_of_not_mem (ha : a.Sendable) {name : String}
    (hname : ∀ entry ∈ a.replyAttributes, entry.1 ≠ name) :
    (authorizeOut a).get? name = (ownPart a.vlan).get? name := by
  rw [authorizeOut_eq ha.accepted, get?_updateWith_of_not_mem hname]

theorem get?_authorizeOut_of_mem (ha : a.Sendable) {entry : String × ReplyEntry}
    (hentry : entry ∈ a.replyAttributes) : (authorizeOut a).get? entry.1 = some entry.2 := by
  rw [authorizeOut_eq ha.accepted, get?_updateWith_of_mem ha.names hentry]

/-- An attribute of one decision is one of the other when the replies agree. -/
theorem subset_of_get? (ha : a.Sendable) (hb : b.Sendable)
    (h : ∀ name, (authorizeOut a).get? name = (authorizeOut b).get? name) :
    a.replyAttributes ⊆ b.replyAttributes := by
  intro entry hentry
  have hvalue := get?_authorizeOut_of_mem ha hentry
  rw [h] at hvalue
  by_cases hname : ∀ other ∈ b.replyAttributes, other.1 ≠ entry.1
  · rw [get?_authorizeOut_of_not_mem hb hname,
      get?_ownPart_of_not_mem (ha.free entry hentry)] at hvalue
    cases hvalue
  · push Not at hname
    obtain ⟨other, hother, hsame⟩ := hname
    rw [← hsame, get?_authorizeOut_of_mem hb hother] at hvalue
    rwa [← Prod.ext hsame (Option.some.inj hvalue)]

/-- The object says the VLAN and the attributes. -/
theorem sameObject_iff (ha : a.Sendable) (hb : b.Sendable) :
    SameObject (authorizeReply a) (authorizeReply b) ↔
      a.vlan = b.vlan ∧ a.replyAttributes.Perm b.replyAttributes := by
  have hown : ∀ {decision : Decision}, decision.Sendable →
      ∀ entry ∈ decision.replyAttributes, entry.1 ≠ "Tunnel-Private-Group-Id" := by
    intro decision hdecision entry hentry hname
    exact hdecision.free entry hentry (hname ▸ by decide)
  rw [sameObject_iff_get?]
  constructor
  · intro h
    have hvlan := h "Tunnel-Private-Group-Id"
    rw [get?_authorizeOut_of_not_mem ha (hown ha), get?_authorizeOut_of_not_mem hb (hown hb)] at hvlan
    refine ⟨vlan_of_get? ha.vlan hb.vlan hvlan, ?_⟩
    rw [List.perm_ext_iff_of_nodup (List.Nodup.of_map _ ha.names) (List.Nodup.of_map _ hb.names)]
    exact fun entry => ⟨fun hentry => subset_of_get? ha hb h hentry,
      fun hentry => subset_of_get? hb ha (fun name => (h name).symm) hentry⟩
  · rintro ⟨hvlan, hperm⟩ name
    by_cases hname : ∀ entry ∈ a.replyAttributes, entry.1 ≠ name
    · rw [get?_authorizeOut_of_not_mem ha hname, hvlan, get?_authorizeOut_of_not_mem hb
        fun entry hentry => hname entry (hperm.mem_iff.mpr hentry)]
    · push Not at hname
      obtain ⟨entry, hentry, rfl⟩ := hname
      rw [get?_authorizeOut_of_mem ha hentry, get?_authorizeOut_of_mem hb (hperm.mem_iff.mp hentry)]

/-- Attributes with names of their own are in one order by name. -/
theorem sortedAttributes_eq_iff {attributes attributes' : ReplyAttributes}
    (hnodup : (attributes.map (·.1)).Nodup) :
    sortedAttributes attributes = sortedAttributes attributes' ↔ attributes.Perm attributes' := by
  have hperm : ∀ attributes : ReplyAttributes, (sortedAttributes attributes).Perm attributes :=
    fun attributes => List.perm_insertionSort _ _
  constructor
  · intro h
    exact (hperm attributes).symm.trans (h ▸ hperm attributes')
  · intro h
    have hsorted : ∀ attributes : ReplyAttributes,
        (sortedAttributes attributes).Pairwise fun a b => a.1 ≤ b.1 := by
      have htotal : Std.Total fun a b : String × ReplyEntry => a.1 ≤ b.1 :=
        ⟨fun a b => String.le_total a.1 b.1⟩
      have htrans : IsTrans (String × ReplyEntry) fun a b => a.1 ≤ b.1 :=
        ⟨fun a b c hab hbc => String.le_trans hab hbc⟩
      exact fun attributes => List.pairwise_insertionSort _ _
    have hsame : (sortedAttributes attributes).Perm (sortedAttributes attributes') :=
      (hperm attributes).trans (h.trans (hperm attributes').symm)
    refine List.Perm.eq_of_pairwise (fun a b ha hb hab hba => ?_) (hsorted _) (hsorted _) hsame
    have ha := (hperm attributes).mem_iff.mp ha
    have hb := h.mem_iff.mpr ((hperm attributes').mem_iff.mp hb)
    exact Rows.eq_of_key hnodup ha hb (String.le_antisymm hab hba)

end Reply

/-! ### Decisions of compiled policies -/

/-- An accepted decision that `decide` makes from compiled policies. -/
def Decision.Made (decision : Decision) : Prop :=
  ∃ (rows : List Policy) (policies : List CompiledPolicy) (ctx : AuthContext) (tz : Zone),
    (∀ row ∈ rows, ∀ vlan ∈ row.vlan, 1 ≤ vlan ∧ vlan ≤ 4094) ∧ rows.mapM compilePolicy = .ok policies ∧
      Naco.decide policies ctx tz = .ok decision ∧ decision.accepted = true

theorem names_of_validateReplyAttributes {raw : Json} {attributes : ReplyAttributes}
    (h : validateReplyAttributes raw = .ok attributes) :
    (attributes.map (·.1)).Nodup ∧ ∀ entry ∈ attributes, entry.1 ∉ ownNames := by
  cases raw with
  | obj members =>
      constructor
      · obtain ⟨-, checked, -, rfl⟩ := validateReplyAttributes_obj_iff.mp h
        exact (updateWith Dict.empty checked).nodup
      · intro entry hentry
        obtain ⟨_, _, _, hname, hfree, _⟩ := entry_of_validateReplyAttributes (by simp) h hentry
        exact not_mem_ownNames hname hfree
  | _ =>
      unfold validateReplyAttributes at h
      split at h
      · cases h
        exact ⟨List.nodup_nil, nofun⟩
      · cases h

theorem compilePolicy_eq_ok {row : Policy} {policy : CompiledPolicy} (h : compilePolicy row = .ok policy) :
    validateReplyAttributes row.replyAttributes = .ok policy.replyAttributes ∧ policy.vlan = row.vlan := by
  unfold compilePolicy at h
  split at h
  · cases h
  · next attributes hattributes =>
      split at h
      · cases h
      · cases h
        exact ⟨hattributes, rfl⟩

theorem Decision.Made.sendable {decision : Decision} (h : decision.Made) : decision.Sendable := by
  obtain ⟨rows, policies, ctx, tz, hvlans, hpolicies, hdecide, haccepted⟩ := h
  obtain ⟨policy, ⟨before, after, rfl, -, -⟩, hpermit, rfl⟩ := firstHolding_of_decide hdecide haccepted
  obtain ⟨row, hrow, hcompiled⟩ := forall₂_mem_right (mapM_eq_ok_iff.mp hpolicies)
    (List.mem_append_right before List.mem_cons_self)
  obtain ⟨hattributes, hvlan⟩ := compilePolicy_eq_ok hcompiled
  obtain ⟨hnodup, hfree⟩ := names_of_validateReplyAttributes hattributes
  have hdecision : policy.decision.vlan = policy.vlan ∧
      policy.decision.replyAttributes = policy.replyAttributes := by
    unfold CompiledPolicy.decision
    rw [hpermit]
    exact ⟨rfl, rfl⟩
  refine ⟨haccepted, fun vlan hmem => ?_, ?_, ?_⟩
  · rw [hdecision.1, hvlan] at hmem
    exact (hvlans row hrow vlan hmem).1
  · rw [hdecision.2]
    exact hnodup
  · rw [hdecision.2]
    exact hfree

/-- Two accepted decisions have one digest exactly when the NAS is sent one object for them, which is
when they agree in the VLAN and, in any order, in the attributes. -/
theorem digest_eq_iff_reply (platform : Platform) (hsha : Function.Injective platform.sha256)
    (a b : Decision) (ha : a.Made) (hb : b.Made) :
    (a.digest platform = b.digest platform ↔ SameObject (authorizeReply a) (authorizeReply b)) ∧
      (a.digest platform = b.digest platform ↔
        a.vlan = b.vlan ∧ a.replyAttributes.Perm b.replyAttributes) := by
  have hdigest : a.digest platform = b.digest platform ↔
      a.vlan = b.vlan ∧ a.replyAttributes.Perm b.replyAttributes := by
    have haction : a.action = b.action := by
      rw [of_decide_eq_true ha.sendable.accepted, of_decide_eq_true hb.sendable.accepted]
    rw [Decision.digest, Decision.digest, hsha.eq_iff, document_eq_iff,
      sortedAttributes_eq_iff ha.sendable.names]
    simp only [haction, true_and]
  exact ⟨hdigest.trans (sameObject_iff ha.sendable hb.sendable).symm, hdigest⟩

/-- A policy for VLAN 10 with these attributes. -/
def staffPolicy (name : String) (attributes : List (String × Json)) : Policy where
  id := 1
  name := name
  action := .permit
  vlan := some 10
  replyAttributes := .obj attributes

/-- The decision of the policy. -/
def staffDecision (name : String) (attributes : ReplyAttributes) : Decision where
  action := .permit
  policyId := some 1
  policyName := name
  reason := "permitted by policy " ++ name
  vlan := some 10
  replyAttributes := attributes

def staffAttributes : ReplyAttributes :=
  [("Filter-Id", .one (.text "staff")), ("Session-Timeout", .one (.int 3600))]

theorem made_staffDecision {name : String} {members : List (String × Json)} {attributes : ReplyAttributes}
    (h : ∃ policies, [staffPolicy name members].mapM compilePolicy = .ok policies ∧
      ∃ made, Naco.decide policies { authMethod := .eapTls, now := ⟨63850334400000000, 0⟩ } Zone.utc =
        .ok made ∧ made = staffDecision name attributes) : (staffDecision name attributes).Made := by
  obtain ⟨policies, hpolicies, made, hdecide, rfl⟩ := h
  refine ⟨_, policies, _, _, ?_, hpolicies, hdecide, rfl⟩
  intro row hrow vlan hvlan
  rw [List.mem_singleton.mp hrow] at hvlan
  cases hvlan
  decide

/-- SHA-256 on the document of the example; any other text is told apart as it is. -/
def staffSha256 (text : String) : String :=
  if text = (staffDecision "staff" staffAttributes).document then
    "6898d9d71b8f23dfc70ff247c544bf130e64ab83609a617f7030690cde26a8a1"
  else
    "not hashed: " ++ text

theorem staffSha256_injective : Function.Injective staffSha256 := by
  intro s t h
  have hother : ∀ text : String, "6898d9d71b8f23dfc70ff247c544bf130e64ab83609a617f7030690cde26a8a1" ≠
      "not hashed: " ++ text := by
    intro text heq
    have hfirst := congrArg (fun s : String => s.toList.head?) heq
    simp at hfirst
  unfold staffSha256 at h
  split at h
  · next hs =>
      split at h
      · next ht => exact hs.trans ht.symm
      · exact absurd h (hother t)
  · split at h
    · exact absurd h.symm (hother s)
    · rw [← String.toList_inj, String.toList_append, String.toList_append] at h
      exact String.toList_inj.mp (List.append_cancel_left h)

theorem digest_eq_iff_reply_staff :
    let platform : Platform := ⟨Zone.utc, fun _ => none, staffSha256⟩
    (staffDecision "staff" staffAttributes).digest platform =
        (staffDecision "employees" staffAttributes.reverse).digest platform ∧
      SameObject (authorizeReply (staffDecision "staff" staffAttributes))
        (authorizeReply (staffDecision "employees" staffAttributes.reverse)) := by
  have hboth := digest_eq_iff_reply ⟨Zone.utc, fun _ => none, staffSha256⟩ staffSha256_injective
    (staffDecision "staff" staffAttributes) (staffDecision "employees" staffAttributes.reverse)
    (@made_staffDecision _ [("Filter-Id", .str "staff"), ("Session-Timeout", .int 3600)] _
      (by decide +kernel))
    (@made_staffDecision _ [("Session-Timeout", .int 3600), ("Filter-Id", .str "staff")] _
      (by decide +kernel))
  have hsame := hboth.2.mpr ⟨rfl, (List.reverse_perm _).symm⟩
  exact ⟨hsame, hboth.1.mp hsame⟩

end Naco
