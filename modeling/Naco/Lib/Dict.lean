import Mathlib.Data.List.Induction
import Mathlib.Data.List.Nodup
import Mathlib.Tactic.Common

/-!
# Insertion-ordered dictionaries

`dict` and `OrderedDict`: a list of items with distinct keys, oldest first. Setting a key that is
there keeps its place; `moveToEnd` and `popFirst` are what a bounded map evicts with. A dictionary is
determined by its items, and most facts about it go through `get?_eq_some_iff`.
-/

namespace Py

structure Dict (κ α : Type) where
  items : List (κ × α)
  nodup : (items.map Prod.fst).Nodup
  deriving DecidableEq

namespace Dict

variable {κ α : Type}

def empty : Dict κ α :=
  ⟨[], List.nodup_nil⟩

/-- `len(d)`. -/
def size (d : Dict κ α) : Nat :=
  d.items.length

/-- `d.popitem(last=False)`. -/
def popFirst (d : Dict κ α) : Dict κ α :=
  ⟨d.items.tail, d.nodup.sublist ((List.tail_sublist d.items).map _)⟩

/-- `{key: f(value) for key, value in d.items()}`. -/
def mapValues (f : α → α) (d : Dict κ α) : Dict κ α :=
  ⟨d.items.map fun item => (item.1, f item.2), by
    rw [List.map_map]
    exact d.nodup⟩

variable [DecidableEq κ]

/-- `d.get(key)`. -/
def get? (d : Dict κ α) (key : κ) : Option α :=
  (d.items.find? (·.1 = key)).map (·.2)

/-- `key in d`. -/
def contains (d : Dict κ α) (key : κ) : Bool :=
  (d.get? key).isSome

/-- `d.pop(key, None)`. -/
def erase (d : Dict κ α) (key : κ) : Dict κ α :=
  ⟨d.items.filter (·.1 ≠ key), d.nodup.sublist (List.filter_sublist.map _)⟩

omit [DecidableEq κ] in
theorem nodup_concat {items : List (κ × α)} {key : κ} {value : α}
    (hnodup : (items.map Prod.fst).Nodup) (hkey : ∀ item ∈ items, item.1 ≠ key) :
    ((items ++ [(key, value)]).map Prod.fst).Nodup := by
  rw [List.map_append]
  refine hnodup.append (List.nodup_singleton _) ?_
  intro k hmem hnew
  rw [List.map_singleton, List.mem_singleton] at hnew
  obtain ⟨item, hitem, rfl⟩ := List.mem_map.mp hmem
  exact hkey item hitem hnew

/-- A new item at the end, in place of the one with its key. -/
def setLast (d : Dict κ α) (key : κ) (value : α) : Dict κ α :=
  ⟨(d.erase key).items ++ [(key, value)],
    nodup_concat (d.erase key).nodup (by simp [erase])⟩

/-- `d[key] = value`. -/
def set (d : Dict κ α) (key : κ) (value : α) : Dict κ α :=
  if h : key ∈ d.items.map Prod.fst then
    ⟨d.items.map fun item => if item.1 = key then (key, value) else item, by
      have hfst : Prod.fst ∘ (fun item : κ × α => if item.1 = key then (key, value) else item) =
          Prod.fst := by
        funext item
        by_cases heq : item.1 = key <;> simp [heq]
      rw [List.map_map, hfst]
      exact d.nodup⟩
  else
    ⟨d.items ++ [(key, value)], nodup_concat d.nodup fun item hmem heq =>
      h (heq ▸ List.mem_map_of_mem hmem)⟩

/-- `d.move_to_end(key)` for a key that is there. -/
def moveToEnd (d : Dict κ α) (key : κ) : Dict κ α :=
  match d.get? key with
  | some value => d.setLast key value
  | none => d

theorem get?_eq_some_iff {d : Dict κ α} {key : κ} {value : α} :
    d.get? key = some value ↔ (key, value) ∈ d.items := by
  obtain ⟨items, hnodup⟩ := d
  simp only [get?]
  induction items with
  | nil => simp
  | cons head items ih =>
      obtain ⟨hfresh, htail⟩ := List.nodup_cons.mp hnodup
      rw [List.find?_cons]
      by_cases hhead : head.1 = key
      · have hother : (key, value) ∉ items := fun hmem =>
          hfresh (hhead ▸ List.mem_map_of_mem hmem)
        simp [hhead, hother, Prod.ext_iff, eq_comm]
      · have hne : (key, value) ≠ head := fun heq => hhead (by rw [← heq])
        simp [hhead, ih htail, hne]

@[simp]
theorem get?_empty (key : κ) : (empty : Dict κ α).get? key = none :=
  rfl

theorem mem_items_setLast {d : Dict κ α} {key other : κ} {value value' : α} :
    (other, value') ∈ (d.setLast key value).items ↔
      if other = key then value' = value else (other, value') ∈ d.items := by
  by_cases heq : other = key
  · simp [setLast, erase, heq]
  · simp [setLast, erase, heq]

theorem mem_items_set {d : Dict κ α} {key other : κ} {value value' : α} :
    (other, value') ∈ (d.set key value).items ↔
      if other = key then value' = value else (other, value') ∈ d.items := by
  unfold set
  split
  · next hmem =>
      obtain ⟨item, hitem, hkey⟩ := List.mem_map.mp hmem
      simp only [List.mem_map]
      by_cases heq : other = key
      · subst heq
        simp only [if_true]
        constructor
        · rintro ⟨found, -, hfound⟩
          by_cases hsame : found.1 = other <;> simp [hsame] at hfound
          · exact hfound.symm
          · exact absurd (congrArg Prod.fst hfound) hsame
        · rintro rfl
          exact ⟨item, hitem, by simp [hkey]⟩
      · simp only [if_neg heq]
        constructor
        · rintro ⟨found, hfound, hsame⟩
          by_cases hkey : found.1 = key
          · rw [if_pos hkey] at hsame
            exact absurd (congrArg Prod.fst hsame).symm heq
          · rw [if_neg hkey] at hsame
            exact hsame ▸ hfound
        · exact fun hfound => ⟨(other, value'), hfound, by simp [heq]⟩
  · next hmem =>
      by_cases heq : other = key
      · subst heq
        have hnot : (other, value') ∉ d.items := fun hitem =>
          hmem (List.mem_map_of_mem hitem)
        simp [hnot]
      · simp [heq]

theorem get?_setLast (d : Dict κ α) (key other : κ) (value : α) :
    (d.setLast key value).get? other = if other = key then some value else d.get? other := by
  ext value'
  rw [get?_eq_some_iff, mem_items_setLast]
  split
  · simp [eq_comm]
  · rw [get?_eq_some_iff]

@[simp]
theorem get?_set (d : Dict κ α) (key other : κ) (value : α) :
    (d.set key value).get? other = if other = key then some value else d.get? other := by
  ext value'
  rw [get?_eq_some_iff, mem_items_set]
  split
  · simp [eq_comm]
  · rw [get?_eq_some_iff]

@[simp]
theorem get?_erase (d : Dict κ α) (key other : κ) :
    (d.erase key).get? other = if other = key then none else d.get? other := by
  ext value
  rw [get?_eq_some_iff]
  split
  · next heq => simp [erase, heq]
  · next heq => rw [get?_eq_some_iff]; simp [erase, heq]

@[simp]
theorem get?_mapValues (f : α → α) (d : Dict κ α) (key : κ) :
    (d.mapValues f).get? key = (d.get? key).map f := by
  rw [get?, get?, mapValues, List.find?_map, Option.map_map, Option.map_map]
  rfl

@[simp]
theorem get?_moveToEnd (d : Dict κ α) (key other : κ) :
    (d.moveToEnd key).get? other = d.get? other := by
  unfold moveToEnd
  split
  · next value hvalue =>
      rw [get?_setLast]
      split
      · next heq => rw [heq, hvalue]
      · rfl
  · rfl

/-! ### One item -/

def single (key : κ) (value : α) : Dict κ α :=
  ⟨[(key, value)], List.nodup_singleton _⟩

omit [DecidableEq κ] in
@[simp]
theorem size_single (key : κ) (value : α) : (single key value).size = 1 :=
  rfl

@[simp]
theorem get?_single (key : κ) (value : α) : (single key value).get? key = some value := by
  simp [get?, single]

@[simp]
theorem contains_single (key : κ) (value : α) : (single key value).contains key = true := by
  simp [contains]

@[simp]
theorem set_empty (key : κ) (value : α) : (empty : Dict κ α).set key value = single key value := by
  simp [set, empty, single]

@[simp]
theorem set_single (key : κ) (value value' : α) :
    (single key value).set key value' = single key value' := by
  simp [set, single]

@[simp]
theorem moveToEnd_single (key : κ) (value : α) :
    (single key value).moveToEnd key = single key value := by
  simp [moveToEnd, setLast, erase, single, get?]


/-- The rows as a dictionary by one of their columns. -/
def ofRows {ρ : Type} (key : ρ → κ) (value : ρ → α) (rows : List ρ) : Dict κ α :=
  rows.foldl (fun d row => d.set (key row) (value row)) empty

theorem mem_items_of_foldl_set {ρ : Type} {key : ρ → κ} {value : ρ → α} {rows : List ρ}
    {d : Dict κ α} {item : κ × α}
    (h : item ∈ (rows.foldl (fun d row => d.set (key row) (value row)) d).items) :
    item ∈ d.items ∨ ∃ row ∈ rows, item = (key row, value row) := by
  induction rows generalizing d with
  | nil => exact .inl h
  | cons row rows ih =>
      rcases ih h with hset | ⟨later, hlater, heq⟩
      · obtain ⟨other, value'⟩ := item
        rw [mem_items_set] at hset
        split at hset
        · next hkey => exact .inr ⟨row, List.mem_cons_self, by rw [hkey, hset]⟩
        · exact .inl hset
      · exact .inr ⟨later, List.mem_cons_of_mem _ hlater, heq⟩

/-- Setting fresh keys one after the other writes them down in that order. -/
theorem items_foldl_set {rows : List (κ × α)} {d : Dict κ α}
    (h : (d.items ++ rows).map Prod.fst |>.Nodup) :
    (rows.foldl (fun d row => d.set row.1 row.2) d).items = d.items ++ rows := by
  induction rows generalizing d with
  | nil => simp
  | cons row rows ih =>
      have hfresh : row.1 ∉ d.items.map Prod.fst := by
        rw [List.map_append, List.map_cons, List.nodup_append] at h
        exact fun hmem => h.2.2 _ hmem _ List.mem_cons_self rfl
      have hset : (d.set row.1 row.2).items = d.items ++ [row] := by
        rw [set, dif_neg hfresh]
      have hnodup : ((d.set row.1 row.2).items ++ rows).map Prod.fst |>.Nodup := by
        rw [hset, List.append_assoc]
        exact h
      rw [List.foldl_cons, ih hnodup, hset, List.append_assoc]
      rfl

/-- A key that was set stays. -/
theorem mem_keys_foldl_set {ρ : Type} {key : ρ → κ} {value : ρ → α} {rows : List ρ} {d : Dict κ α}
    {k : κ} (h : (d.get? k).isSome ∨ ∃ row ∈ rows, key row = k) :
    ((rows.foldl (fun d row => d.set (key row) (value row)) d).get? k).isSome := by
  induction rows generalizing d with
  | nil =>
      rcases h with h | ⟨row, hrow, -⟩
      · exact h
      · cases hrow
  | cons row rows ih =>
      refine ih ?_
      rw [get?_set]
      by_cases hkey : k = key row
      · exact .inl (by simp [hkey])
      · rw [if_neg hkey]
        rcases h with h | ⟨found, hfound, rfl⟩
        · exact .inl h
        · rcases List.mem_cons.mp hfound with rfl | hfound
          · exact absurd rfl hkey
          · exact .inr ⟨found, hfound, rfl⟩

/-- Of the rows with one key, the last is kept. -/
theorem mem_items_foldl_set_iff {rows : List (κ × α)} {item : κ × α} :
    item ∈ (rows.foldl (fun d row => d.set row.1 row.2) empty).items ↔
      ∃ before after, rows = before ++ item :: after ∧ ∀ row ∈ after, row.1 ≠ item.1 := by
  induction rows using List.reverseRecOn with
  | nil =>
      refine iff_of_false (List.not_mem_nil) ?_
      rintro ⟨before, after, h, -⟩
      simp at h
  | append_singleton rows row ih =>
      obtain ⟨key, value⟩ := item
      rw [List.foldl_append, List.foldl_cons, List.foldl_nil, mem_items_set]
      by_cases hkey : key = row.1
      · rw [if_pos hkey]
        constructor
        · rintro rfl
          exact ⟨rows, [], by rw [hkey], by simp⟩
        · rintro ⟨before, after, hsplit, hafter⟩
          rcases List.eq_nil_or_concat after with rfl | ⟨later, last, rfl⟩
          · exact congrArg Prod.snd (List.append_inj_right' hsplit rfl |> List.head_eq_of_cons_eq).symm
          · rw [List.concat_eq_append, ← List.cons_append, ← List.append_assoc] at hsplit
            have hlast : row = last := List.head_eq_of_cons_eq (List.append_inj_right' hsplit rfl)
            exact absurd (hlast ▸ hkey.symm) (hafter last (by simp))
      · rw [if_neg hkey, ih]
        constructor
        · rintro ⟨before, after, rfl, hafter⟩
          refine ⟨before, after ++ [row], by simp, fun other hmem => ?_⟩
          rcases List.mem_append.mp hmem with hmem | hmem
          · exact hafter other hmem
          · rw [List.mem_singleton.mp hmem]
            exact Ne.symm hkey
        · rintro ⟨before, after, hsplit, hafter⟩
          rcases List.eq_nil_or_concat after with rfl | ⟨later, last, rfl⟩
          · have hlast : row = (key, value) := List.head_eq_of_cons_eq (List.append_inj_right' hsplit rfl)
            exact absurd (by rw [hlast]) hkey
          · rw [List.concat_eq_append, ← List.cons_append, ← List.append_assoc] at hsplit
            exact ⟨before, later, List.append_inj_left' hsplit rfl, fun other hmem =>
              hafter other (by simp [hmem])⟩

theorem get?_foldl_set {ρ : Type} {key : ρ → κ} {value : ρ → α} {rows : List ρ}
    (hnodup : (rows.map key).Nodup) (d : Dict κ α) (k : κ) :
    (rows.foldl (fun d row => d.set (key row) (value row)) d).get? k =
      match rows.find? (key · = k) with
      | some row => some (value row)
      | none => d.get? k := by
  induction rows generalizing d with
  | nil => rfl
  | cons row rows ih =>
      obtain ⟨hfresh, hrows⟩ := List.nodup_cons.mp hnodup
      rw [List.foldl_cons, ih hrows, List.find?_cons]
      by_cases hkey : key row = k
      · have hnone : rows.find? (key · = k) = none := by
          rw [List.find?_eq_none]
          intro found hfound hsame
          have hsame : key found = k := by simpa using hsame
          exact hfresh (List.mem_map.mpr ⟨found, hfound, hsame.trans hkey.symm⟩)
        simp [hnone, hkey]
      · simp [hkey, Ne.symm hkey]

theorem get?_ofRows {ρ : Type} {key : ρ → κ} {value : ρ → α} {rows : List ρ}
    (hnodup : (rows.map key).Nodup) (k : κ) :
    (ofRows key value rows).get? k = (rows.find? (key · = k)).map value := by
  rw [ofRows, get?_foldl_set hnodup]
  cases rows.find? (key · = k) <;> rfl

/-- A key that the rows were selected by is found as in the whole table. -/
theorem get?_ofRows_filter {ρ : Type} {key : ρ → κ} {value : ρ → α} {rows : List ρ}
    (hnodup : (rows.map key).Nodup) {keys : List κ} {k : κ} (hk : k ∈ keys) :
    (ofRows key value (rows.filter (key · ∈ keys))).get? k = (rows.find? (key · = k)).map value := by
  have hfind : (rows.filter (key · ∈ keys)).find? (key · = k) = rows.find? (key · = k) := by
    rw [List.find?_filter]
    congr 1
    funext row
    by_cases hrow : key row = k <;> simp [hrow, hk]
  rw [get?_ofRows (hnodup.sublist (List.filter_sublist.map _)), hfind]

theorem get?_ofRows_filter_of_not_mem {ρ : Type} {key : ρ → κ} {value : ρ → α} {rows : List ρ}
    (hnodup : (rows.map key).Nodup) {keys : List κ} {k : κ} (hk : k ∉ keys) :
    (ofRows key value (rows.filter (key · ∈ keys))).get? k = none := by
  have hnone : (rows.filter (key · ∈ keys)).find? (key · = k) = none := by
    rw [List.find?_eq_none]
    intro row hrow heq
    have heq : key row = k := by simpa using heq
    exact hk (by simpa [heq] using (List.mem_filter.mp hrow).2)
  rw [get?_ofRows (hnodup.sublist (List.filter_sublist.map _)), hnone]
  rfl

/-- An eviction only forgets. -/
theorem get?_of_get?_popFirst {d : Dict κ α} {key : κ} {value : α}
    (h : d.popFirst.get? key = some value) : d.get? key = some value := by
  rw [get?_eq_some_iff] at h ⊢
  exact List.mem_of_mem_tail h

/-! ### Sizes -/

theorem not_mem_of_get?_none {d : Dict κ α} {key : κ} (h : d.get? key = none) :
    ∀ item ∈ d.items, item.1 ≠ key := by
  rintro ⟨other, value⟩ hitem rfl
  rw [get?_eq_some_iff.mpr hitem] at h
  cases h

theorem items_set_of_get?_none {d : Dict κ α} {key : κ} (h : d.get? key = none) (value : α) :
    (d.set key value).items = d.items ++ [(key, value)] := by
  have hmem : key ∉ d.items.map Prod.fst := by
    intro hmem
    obtain ⟨item, hitem, heq⟩ := List.mem_map.mp hmem
    exact not_mem_of_get?_none h item hitem heq
  rw [set, dif_neg hmem]

theorem items_erase_of_get?_none {d : Dict κ α} {key : κ} (h : d.get? key = none) :
    (d.erase key).items = d.items :=
  List.filter_eq_self.mpr fun item hitem => decide_eq_true (not_mem_of_get?_none h item hitem)

theorem size_erase_le (d : Dict κ α) (key : κ) : (d.erase key).size ≤ d.size :=
  List.length_filter_le _ _

omit [DecidableEq κ] in
theorem size_popFirst (d : Dict κ α) : d.popFirst.size = d.size - 1 :=
  List.length_tail

/-- An item that is there is written over; a new one is one more. -/
theorem size_set (d : Dict κ α) (key : κ) (value : α) :
    (d.set key value).size = if d.contains key then d.size else d.size + 1 := by
  cases hget : d.get? key with
  | none =>
      rw [contains, hget, size, items_set_of_get?_none hget, List.length_append]
      rfl
  | some old =>
      have hmem : key ∈ d.items.map Prod.fst :=
        List.mem_map.mpr ⟨(key, old), get?_eq_some_iff.mp hget, rfl⟩
      rw [contains, hget, size, set, dif_pos hmem, List.length_map]
      rfl

/-- An item that moves to the end is still one item. -/
theorem size_setLast {d : Dict κ α} {key : κ} {value : α} (h : d.get? key = some value) :
    (d.setLast key value).size = d.size := by
  have hperm : (d.setLast key value).items.Perm d.items := by
    refine (List.perm_ext_iff_of_nodup ?_ ?_).mpr ?_
    · exact (d.setLast key value).nodup.of_map
    · exact d.nodup.of_map
    · rintro ⟨other, value'⟩
      rw [mem_items_setLast]
      split
      · next heq =>
          rw [heq, ← get?_eq_some_iff, h]
          exact ⟨fun heq => heq ▸ rfl, fun heq => (Option.some_inj.mp heq).symm⟩
      · rfl
  exact hperm.length_eq

@[simp]
theorem size_moveToEnd (d : Dict κ α) (key : κ) : (d.moveToEnd key).size = d.size := by
  unfold moveToEnd
  split
  · next value hvalue => exact size_setLast hvalue
  · rfl

theorem size_erase {d : Dict κ α} {key : κ} (h : d.contains key = true) :
    (d.erase key).size + 1 = d.size := by
  obtain ⟨value, hvalue⟩ := Option.isSome_iff_exists.mp h
  rw [← size_setLast hvalue, setLast, size, size, List.length_append, List.length_singleton]

theorem size_erase_lt {d : Dict κ α} {key : κ} (h : d.contains key = true) :
    (d.erase key).size < d.size :=
  Nat.lt_of_succ_le (Nat.le_of_eq (size_erase h))

end Dict

end Py
