import Naco.Lib.Dict
import Naco.Lib.Python

/-!
# Objects as mappings

Two objects that give every name the same value are the same to a reader, whatever the order of their
members.
-/

namespace Py.Json

def SameMembers (a b : Json) : Prop :=
  ∃ members members', a = .obj members ∧ b = .obj members' ∧
    ∀ name, member members name = member members' name

theorem member_items (d : Dict String Json) (name : String) : member d.items name = d.get? name := by
  let reversed : Dict String Json := ⟨d.items.reverse, by
    rw [List.map_reverse, List.nodup_reverse]
    exact d.nodup⟩
  have hreversed : reversed.get? name = d.get? name := by
    ext value
    rw [Dict.get?_eq_some_iff, Dict.get?_eq_some_iff, List.mem_reverse]
  exact hreversed

theorem member_eq_some_iff {members : List (String × Json)} (h : (members.map Prod.fst).Nodup)
    {name : String} {value : Json} : member members name = some value ↔ (name, value) ∈ members := by
  rw [member_items ⟨members, h⟩, Dict.get?_eq_some_iff]

theorem sameMembers_obj_iff {members members' : List (String × Json)} :
    SameMembers (.obj members) (.obj members') ↔ ∀ name, member members name = member members' name := by
  constructor
  · rintro ⟨_, _, hmembers, hmembers', h⟩
    cases hmembers
    cases hmembers'
    exact h
  · exact fun h => ⟨members, members', rfl, rfl, h⟩

theorem sameMembers_of_perm {members members' : List (String × Json)}
    (hnodup : (members.map Prod.fst).Nodup) (h : members.Perm members') :
    SameMembers (.obj members) (.obj members') := by
  have hnodup' : (members'.map Prod.fst).Nodup := (h.map Prod.fst).nodup_iff.mp hnodup
  rw [sameMembers_obj_iff]
  intro name
  ext value
  rw [member_eq_some_iff hnodup, member_eq_some_iff hnodup', h.mem_iff]

theorem arr_strings_inj {items items' : List String} :
    Json.arr (items.map .str) = .arr (items'.map .str) ↔ items = items' := by
  rw [Json.arr.injEq]
  exact (List.map_injective_iff.mpr fun _ _ => Json.str.inj).eq_iff

end Py.Json
