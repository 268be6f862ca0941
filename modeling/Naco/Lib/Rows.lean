import Mathlib.Data.List.Nodup
import Mathlib.Tactic.Common

/-!
# Rows with a unique key

A table is a list of rows, and a unique column is a function on them without duplicates. A lookup by a
unique column finds the one row with that key; a write either appends a row with a new key or replaces
rows by rows with the same key.
-/

namespace Rows

variable {α κ : Type}

theorem nodup_concat {key : α → κ} {rows : List α} {row : α} (hnodup : (rows.map key).Nodup)
    (hnew : ∀ found ∈ rows, key found ≠ key row) : ((rows ++ [row]).map key).Nodup := by
  rw [List.map_append]
  refine hnodup.append (List.nodup_singleton _) ?_
  intro k hmem hk
  rw [List.map_singleton, List.mem_singleton] at hk
  obtain ⟨found, hfound, rfl⟩ := List.mem_map.mp hmem
  exact hnew found hfound hk

/-- Replacing some rows keeps a column that the new rows agree on. -/
theorem map_replace {key : α → κ} {rows : List α} {f : α → α}
    (h : ∀ row ∈ rows, key (f row) = key row) : (rows.map f).map key = rows.map key := by
  rw [List.map_map]
  exact List.map_congr_left h

theorem eq_of_key {key : α → κ} {rows : List α} (hnodup : (rows.map key).Nodup) {a b : α}
    (ha : a ∈ rows) (hb : b ∈ rows) (h : key a = key b) : a = b :=
  List.inj_on_of_nodup_map hnodup ha hb h

variable [DecidableEq κ]

theorem find?_eq_some_iff {key : α → κ} {rows : List α} (hnodup : (rows.map key).Nodup) {k : κ}
    {row : α} : rows.find? (fun found => key found = k) = some row ↔ row ∈ rows ∧ key row = k := by
  constructor
  · intro h
    exact ⟨List.mem_of_find?_eq_some h, by simpa using List.find?_some h⟩
  · rintro ⟨hmem, rfl⟩
    cases hfind : rows.find? fun found => key found = key row with
    | none => simpa using List.find?_eq_none.mp hfind row hmem
    | some found =>
        have hfound := List.mem_of_find?_eq_some hfind
        have hkey : key found = key row := by simpa using List.find?_some hfind
        rw [eq_of_key hnodup hfound hmem hkey]

theorem find?_eq_none_iff {key : α → κ} {rows : List α} {k : κ} :
    rows.find? (fun found => key found = k) = none ↔ ∀ row ∈ rows, key row ≠ k := by
  simp

end Rows
