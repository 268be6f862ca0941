import Naco.Lib.JsonText
import Naco.Lib.Rows
import Naco.Proof.Engine
import Naco.Proof.Routes
import Naco.Routes.Policies

/-!
# The order that a request shows

A list of all ids is stored as priorities in steps of ten. They rise along the list, so the policies are
evaluated in its order; from the thousandth on they are greater than any that a policy may be given.
-/

namespace Naco

open Py

def policyIds (t : Tables) : List Int :=
  t.policies.map fun policy => (policy.id : Int)

/-- A policy with the priority of its place in the list. -/
def Policy.placed (ids : List Int) (policy : Policy) : Policy :=
  { policy with priority := (ids.idxOf (policy.id : Int) + 1) * 10 }

/-- What the request shows: the order, priorities that a policy may have, and nothing else changed. -/
structure Reordered (t t' : Tables) (ids : List Int) : Prop where
  order : (t'.policies.insertionSort Policy.le).map (fun policy => (policy.id : Int)) = ids
  range : ∀ policy ∈ t'.policies, 1 ≤ policy.priority ∧ policy.priority ≤ 9999
  columns : t'.policies.map (fun policy => { policy with priority := 0 }) =
    t.policies.map fun policy => { policy with priority := 0 }
  tables : { t' with policies := [] } = { t with policies := [] }

section

variable {t : Tables} {ids : List Int}

theorem consistent_placed (h : t.Consistent) :
    Tables.Consistent { t with policies := t.policies.map (Policy.placed ids) } := by
  have hkeep {κ : Type} (key : Policy → κ) (hkey : ∀ policy, key (policy.placed ids) = key policy) :
      (t.policies.map (Policy.placed ids)).map key = t.policies.map key :=
    Rows.map_replace fun policy _ => hkey policy
  exact { h with
    policyIds := (hkeep (·.id) fun _ => rfl).symm ▸ h.policyIds
    policyNames := (hkeep (·.name) fun _ => rfl).symm ▸ h.policyNames
    policyVlans := by
      intro policy hpolicy
      obtain ⟨old, hold, rfl⟩ := List.mem_map.mp hpolicy
      exact h.policyVlans old hold }

theorem nodup_policyIds (h : t.Consistent) : (policyIds t).Nodup := by
  have hmap : policyIds t = (t.policies.map (·.id)).map Int.ofNat := by
    rw [List.map_map]
    rfl
  rw [hmap]
  exact h.policyIds.map fun _ _ => Int.ofNat.inj

/-- The places of a list rise along it. -/
theorem pairwise_idxOf (hnodup : ids.Nodup) : ids.Pairwise fun a b => ids.idxOf a ≤ ids.idxOf b := by
  rw [List.pairwise_iff_getElem]
  intro i j hi hj hlt
  rw [hnodup.idxOf_getElem i hi, hnodup.idxOf_getElem j hj]
  exact Nat.le_of_lt hlt

/-- Sorted by the priorities of their places, the policies are in the order of the list. -/
theorem ids_insertionSort_placed (hperm : ids.Perm (policyIds t)) (hnodup : ids.Nodup) :
    ((t.policies.map (Policy.placed ids)).insertionSort Policy.le).map
      (fun policy => (policy.id : Int)) = ids := by
  have hsorted := List.perm_insertionSort Policy.le (t.policies.map (Policy.placed ids))
  have hids : (t.policies.map (Policy.placed ids)).map (fun policy => (policy.id : Int)) = policyIds t := by
    rw [List.map_map]
    rfl
  have hsame : (((t.policies.map (Policy.placed ids)).insertionSort Policy.le).map
      fun policy => (policy.id : Int)).Perm ids := by
    refine (hsorted.map _).trans ?_
    rw [hids]
    exact hperm.symm
  refine List.Perm.eq_of_pairwise ?_ ?_ (pairwise_idxOf hnodup) hsame
  · intro a b ha hb hle hge
    exact (List.idxOf_inj (hsame.mem_iff.mp ha)).mp (Nat.le_antisymm hle hge)
  · rw [List.pairwise_map]
    refine (List.pairwise_insertionSort Policy.le (t.policies.map (Policy.placed ids))).imp_of_mem ?_
    intro a b ha hb hle
    obtain ⟨old, -, rfl⟩ := List.mem_map.mp (hsorted.mem_iff.mp ha)
    obtain ⟨old', -, rfl⟩ := List.mem_map.mp (hsorted.mem_iff.mp hb)
    simp only [Policy.le, Policy.placed] at hle ⊢
    omega

/-- The priorities stay in range exactly for a list of less than a thousand. -/
theorem range_placed_iff (hperm : ids.Perm (policyIds t)) (hnodup : ids.Nodup) :
    (∀ policy ∈ t.policies.map (Policy.placed ids), 1 ≤ policy.priority ∧ policy.priority ≤ 9999) ↔
      ids.length ≤ 999 := by
  constructor
  · intro hrange
    by_contra hlong
    have hlast : 999 < ids.length := by omega
    obtain ⟨policy, hpolicy, hid⟩ := List.mem_map.mp (hperm.mem_iff.mp (List.getElem_mem hlast))
    have hle := (hrange _ (List.mem_map_of_mem hpolicy)).2
    simp only [Policy.placed] at hle
    rw [hid, hnodup.idxOf_getElem 999 hlast] at hle
    omega
  · intro hshort policy hpolicy
    obtain ⟨old, hold, rfl⟩ := List.mem_map.mp hpolicy
    have hplace : ids.idxOf (old.id : Int) < ids.length :=
      List.idxOf_lt_length_of_mem (hperm.mem_iff.mpr (List.mem_map_of_mem hold))
    simp only [Policy.placed]
    omega

end

theorem reorder_of_perm {db : Database} {ids : List Int} (hperm : ids.Perm (policyIds db.val)) :
    reorder .superuser ids db = .ok ⟨⟨{ db.val with policies := db.val.policies.map (Policy.placed ids) },
      consistent_placed db.property⟩, ["policy order changed"]⟩ := by
  have hnodup : ids.Nodup := hperm.nodup_iff.mpr (nodup_policyIds db.property)
  have haccept : ids.isPerm (db.val.policies.map fun policy => (policy.id : Int)) ∧ ids.Nodup :=
    ⟨List.isPerm_iff.mpr hperm, hnodup⟩
  have hrequire : require .superuser .superuser = .ok () := rfl
  rw [reorder, hrequire]
  change (if _ then _ else _) = _
  rw [if_pos haccept]
  exact commitOrRaise_eq_ok_iff.mpr ⟨consistent_placed db.property, rfl⟩

theorem reorder_of_not_perm {db : Database} {ids : List Int} (hperm : ¬ ids.Perm (policyIds db.val)) :
    reorder .superuser ids db =
      apiError 422 "send every policy id exactly once, in the new order" := by
  have hrefuse : ¬ (ids.isPerm (db.val.policies.map fun policy => (policy.id : Int)) ∧ ids.Nodup) :=
    fun h => hperm (List.isPerm_iff.mp h.1)
  have hrequire : require .superuser .superuser = .ok () := rfl
  rw [reorder, hrequire]
  change (if _ then _ else _) = _
  rw [if_neg hrefuse]

theorem val_run_reorder {db : Database} {ids : List Int} (hperm : ids.Perm (policyIds db.val))
    (dictionary : RadiusDictionary) : ((PolicyCall.reorder ids).run dictionary .superuser db).val =
      { db.val with policies := db.val.policies.map (Policy.placed ids) } := by
  simp only [PolicyCall.run, reorder_of_perm hperm]
  rfl

/-- What a request of a superuser has to do. -/
def ReorderAsShown (dictionary : RadiusDictionary) (db : Database) (ids : List Int) : Prop :=
  if ids.Perm (policyIds db.val) then
    Returns (reorder .superuser ids db) ∧
      Reordered db.val ((PolicyCall.reorder ids).run dictionary .superuser db).val ids
  else
    ¬ Returns (reorder .superuser ids db) ∧
      (PolicyCall.reorder ids).run dictionary .superuser db = db

/-- A request does what it shows exactly when it is refused, or lists less than a thousand policies. -/
theorem reorder_as_shown_iff (dictionary : RadiusDictionary) (db : Database) (body : Reorder) :
    ReorderAsShown dictionary db body.ids ↔
      (body.ids.Perm (policyIds db.val) → body.ids.length ≤ 999) := by
  by_cases hperm : body.ids.Perm (policyIds db.val)
  · have hnodup : body.ids.Nodup := hperm.nodup_iff.mpr (nodup_policyIds db.property)
    have hrange := range_placed_iff hperm hnodup
    rw [ReorderAsShown, if_pos hperm, val_run_reorder hperm]
    constructor
    · rintro ⟨-, hreordered⟩ -
      exact hrange.mp hreordered.range
    · intro hshort
      refine ⟨⟨_, reorder_of_perm hperm⟩, ids_insertionSort_placed hperm hnodup,
        hrange.mpr (hshort hperm), ?_, rfl⟩
      rw [List.map_map]
      rfl
  · rw [ReorderAsShown, if_neg hperm, PolicyCall.run]
    simp only [reorder_of_not_perm hperm]
    refine ⟨fun _ h => absurd h hperm, fun _ => ⟨?_, rfl⟩⟩
    rintro ⟨outcome, houtcome⟩
    cases houtcome

/-- Policies that are named by their numbers. -/
def numberedPolicies (count : Nat) : List Policy :=
  (List.range count).map fun number =>
    { id := number + 1, name := Nat.repr number, action := .permit }

theorem consistent_numberedPolicies (count : Nat) :
    Tables.Consistent { policies := numberedPolicies count } where
  commandSetIds := .nil
  commandSetNames := .nil
  groupIds := .nil
  groupNames := .nil
  groupPrivileges := nofun
  groupCommandSets := nofun
  userIds := .nil
  usernames := .nil
  userGroups := nofun
  deviceIds := .nil
  deviceMacs := .nil
  guestIds := .nil
  policyIds := by
    rw [numberedPolicies, List.map_map]
    exact List.nodup_range.map fun _ _ => Nat.succ.inj
  policyNames := by
    rw [numberedPolicies, List.map_map]
    exact List.nodup_range.map repr_injective
  policyVlans := by
    intro policy hpolicy
    obtain ⟨number, -, rfl⟩ := List.mem_map.mp hpolicy
    nofun
  nasIds := .nil
  nasNames := .nil
  nasAddresses := .nil
  nasPorts := nofun
  sessionIds := .nil
  sessionKeys := .nil
  authLogIds := .nil

theorem length_policyIds_numberedPolicies (count : Nat) :
    (policyIds { policies := numberedPolicies count }).length = count := by
  rw [policyIds, List.length_map, numberedPolicies, List.length_map, List.length_range]

/-- Of a thousand policies that are sent in their order the last gets a priority that is out of range. -/
theorem thousandth_priority_out_of_range :
    ¬ ∀ (dictionary : RadiusDictionary) (db : Database) (body : Reorder),
      ReorderAsShown dictionary db body.ids := by
  intro hall
  obtain ⟨db, hlength⟩ : ∃ db : Database, (policyIds db.val).length = 1000 :=
    ⟨⟨_, consistent_numberedPolicies 1000⟩, length_policyIds_numberedPolicies 1000⟩
  have hshown := hall (.ofNames [] fun _ => none) db ⟨policyIds db.val, by omega, by omega⟩
  have hperm : (policyIds db.val).Perm (policyIds db.val) := List.Perm.refl _
  rw [ReorderAsShown, if_pos hperm, val_run_reorder hperm] at hshown
  have hshort := (range_placed_iff hperm (nodup_policyIds db.property)).mp hshown.2.range
  omega

end Naco
