import Mathlib.Data.List.Dedup
import Naco.Lib.Dict

/-!
# Grouped counts

`SELECT …, count(*) … GROUP BY`: each key that some row has, once, with the number of its rows. Rows
grouped by a pair are then read into a dictionary of dictionaries.
-/

namespace Grouping

open Py

variable {ρ ι κ κ' : Type} [DecidableEq ι] [DecidableEq κ] [DecidableEq κ']

def counts (key : ρ → κ) (rows : List ρ) : List (κ × Nat) :=
  (rows.map key).dedup.map fun k => (k, rows.countP (key · = k))

theorem nodup_counts (key : ρ → κ) (rows : List ρ) : ((counts key rows).map Prod.fst).Nodup := by
  have hkeys : (counts key rows).map Prod.fst = (rows.map key).dedup := by
    rw [counts, List.map_map]
    exact List.map_id _
  rw [hkeys]
  exact List.nodup_dedup _

theorem mem_counts {key : ρ → κ} {rows : List ρ} {k : κ} {n : Nat} :
    (k, n) ∈ counts key rows ↔ (∃ row ∈ rows, key row = k) ∧ n = rows.countP (key · = k) := by
  rw [counts, List.mem_map]
  constructor
  · rintro ⟨found, hfound, hpair⟩
    obtain ⟨rfl, rfl⟩ := Prod.mk.inj hpair
    exact ⟨List.mem_map.mp (List.mem_dedup.mp hfound), rfl⟩
  · rintro ⟨hrow, rfl⟩
    exact ⟨k, List.mem_dedup.mpr (List.mem_map.mpr hrow), rfl⟩

/-- `d.setdefault(outer, {})[inner] = value`. -/
def setNested {α : Type} (d : Dict κ (Dict κ' α)) (outer : κ) (inner : κ') (value : α) :
    Dict κ (Dict κ' α) :=
  d.set outer (((d.get? outer).getD Dict.empty).set inner value)

/-- `d.get(outer, {}).get(inner)`. -/
def getNested {α : Type} (d : Dict κ (Dict κ' α)) (outer : κ) (inner : κ') : Option α :=
  ((d.get? outer).getD Dict.empty).get? inner

theorem getNested_setNested {α : Type} (d : Dict κ (Dict κ' α)) (outer other : κ) (inner inner' : κ')
    (value : α) : getNested (setNested d outer inner value) other inner' =
      if other = outer ∧ inner' = inner then some value else getNested d other inner' := by
  rw [getNested, setNested, Dict.get?_set]
  by_cases houter : other = outer
  · subst houter
    rw [if_pos rfl, Option.getD_some, Dict.get?_set]
    simp only [true_and]
    rfl
  · rw [if_neg houter, if_neg fun h => houter h.1]
    rfl

/-- Every group is found under its two keys, the inner one by its name. -/
theorem getNested_foldl {name : ι → κ'} (hname : Function.Injective name)
    {groups : List ((κ × ι) × Nat)} (d : Dict κ (Dict κ' Nat))
    (hnodup : (groups.map Prod.fst).Nodup) (outer : κ) (inner : ι) :
    getNested (groups.foldl (fun d group => setNested d group.1.1 (name group.1.2) group.2) d) outer
        (name inner) =
      ((groups.find? fun group => group.1 = (outer, inner)).map Prod.snd).or
        (getNested d outer (name inner)) := by
  induction groups generalizing d with
  | nil => rfl
  | cons group groups ih =>
      rw [List.map_cons, List.nodup_cons] at hnodup
      rw [List.foldl_cons, ih _ hnodup.2, getNested_setNested, List.find?_cons]
      by_cases hkey : group.1 = (outer, inner)
      · have hlater : groups.find? (fun group => group.1 = (outer, inner)) = none := by
          rw [List.find?_eq_none]
          intro later hmem
          rw [decide_eq_true_eq]
          intro heq
          exact hnodup.1 (List.mem_map.mpr ⟨later, hmem, heq.trans hkey.symm⟩)
        rw [hlater, decide_eq_true hkey]
        simp [hkey]
      · have hother : ¬ (outer = group.1.1 ∧ name inner = name group.1.2) := by
          intro h
          exact hkey (Prod.ext h.1.symm (hname h.2).symm)
        rw [if_neg hother, decide_eq_false hkey]

/-- A dictionary of grouped counts gives every pair its number of rows. -/
theorem getNested_counts {name : ι → κ'} (hname : Function.Injective name) (key : ρ → κ × ι)
    (rows : List ρ) (outer : κ) (inner : ι) :
    (getNested ((counts key rows).foldl
        (fun d group => setNested d group.1.1 (name group.1.2) group.2) Dict.empty) outer
        (name inner)).getD 0 = rows.countP (key · = (outer, inner)) := by
  rw [getNested_foldl hname _ (nodup_counts key rows)]
  have hempty : getNested (Dict.empty : Dict κ (Dict κ' Nat)) outer (name inner) = none := by
    rw [getNested, Dict.get?_empty, Option.getD_none, Dict.get?_empty]
  rw [hempty, Option.or_none]
  cases hfind : (counts key rows).find? fun group => group.1 = (outer, inner) with
  | none =>
      rw [Option.map_none, Option.getD_none, eq_comm, List.countP_eq_zero]
      intro row hrow hkey
      rw [decide_eq_true_eq] at hkey
      have hgroup : ((outer, inner), rows.countP (key · = (outer, inner))) ∈ counts key rows :=
        mem_counts.mpr ⟨⟨row, hrow, hkey⟩, rfl⟩
      simpa using List.find?_eq_none.mp hfind _ hgroup
  | some group =>
      have hkey : group.1 = (outer, inner) := by simpa using List.find?_some hfind
      have hmem := List.mem_of_find?_eq_some hfind
      obtain ⟨pair, n⟩ := group
      obtain rfl : pair = (outer, inner) := hkey
      rw [Option.map_some, Option.getD_some, (mem_counts.mp hmem).2]

end Grouping
