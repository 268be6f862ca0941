import Naco.Api

/-!
# How a route ends

A route that succeeds has committed one consistent state.
-/

namespace Naco

open Py

theorem commitOrConflict_eq_ok_iff {message : String} {t : Tables} {scheduled : List String}
    {outcome : Outcome} :
    commitOrConflict message t scheduled = .ok outcome ↔
      ∃ h : t.Consistent, outcome = ⟨⟨t, h⟩, scheduled⟩ := by
  unfold commitOrConflict
  by_cases h : t.Consistent
  · simp [commit_of_consistent h, h, eq_comm]
  · simp [commit, h, apiError]

theorem commitOrRaise_eq_ok_iff {t : Tables} {scheduled : List String} {outcome : Outcome} :
    commitOrRaise t scheduled = .ok outcome ↔
      ∃ h : t.Consistent, outcome = ⟨⟨t, h⟩, scheduled⟩ := by
  unfold commitOrRaise
  by_cases h : t.Consistent
  · simp [commit_of_consistent h, h, eq_comm]
  · simp [commit, h]

theorem require_eq_ok_iff {role required : AdminRole} :
    require role required = .ok () ↔ role.allows required = true := by
  unfold require
  split <;> simp_all [apiError]

theorem getOr404_eq_ok_iff {α : Type} {rows : List α} {key : α → Nat} {id : Nat} {what : String}
    {row : α} :
    getOr404 rows key id what = .ok row ↔ rows.find? (fun row => key row = id) = some row := by
  unfold getOr404
  cases rows.find? fun row => key row = id <;> simp [apiError]

theorem mem_replaceRow {α : Type} {rows : List α} {key : α → Nat} {new row : α}
    (h : row ∈ replaceRow rows key new) : row = new ∨ row ∈ rows := by
  obtain ⟨old, hold, hrow⟩ := List.mem_map.mp h
  split at hrow
  · exact .inl hrow.symm
  · exact .inr (hrow ▸ hold)

end Naco
