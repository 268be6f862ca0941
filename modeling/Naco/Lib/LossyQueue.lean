import Mathlib.Data.List.Infix
import Mathlib.Data.List.Sublists
import Mathlib.Tactic.Common

/-!
# A queue that loses its oldest items

An `asyncio.Queue` whose writer takes the oldest item out when it is full, and never waits. What the
reader takes comes in order and each item once; what it misses are items that were followed by as many
others as the queue holds.
-/

namespace Py

/-- `asyncio.Queue`; without a size it is never full. -/
structure Queue (α : Type) where
  maxsize : Nat
  items : List α := []
  deriving DecidableEq, Repr

namespace Queue

variable {α : Type}

/-- `full()`. -/
def full (q : Queue α) : Bool :=
  q.maxsize ≠ 0 && q.maxsize ≤ q.items.length

/-- `put_nowait`, after `get_nowait` when the queue is full. -/
def offer (q : Queue α) (item : α) : Queue α :=
  { q with items := (if q.full then q.items.tail else q.items) ++ [item] }

/-- `get`, when it does not wait. -/
def take (q : Queue α) : Option (α × Queue α) :=
  match q.items with
  | [] => none
  | item :: items => some (item, { q with items })

theorem take_eq_some_iff {q q' : Queue α} {item : α} :
    q.take = some (item, q') ↔ q.items = item :: q'.items ∧ q'.maxsize = q.maxsize := by
  obtain ⟨maxsize, items⟩ := q
  obtain ⟨maxsize', items'⟩ := q'
  cases items with
  | nil => simp [take]
  | cons head tail =>
      simp only [take, Option.some.injEq, Prod.mk.injEq, mk.injEq, List.cons.injEq]
      constructor
      · rintro ⟨rfl, rfl, rfl⟩
        exact ⟨⟨rfl, rfl⟩, rfl⟩
      · rintro ⟨⟨rfl, rfl⟩, rfl⟩
        exact ⟨rfl, rfl, rfl⟩

/-- With room for one more, nothing is lost. -/
theorem items_offer {q : Queue α} (h : q.maxsize = 0 ∨ q.items.length < q.maxsize) (item : α) :
    (q.offer item).items = q.items ++ [item] := by
  have hfull : q.full = false := by
    rw [full, Bool.and_eq_false_iff]
    rcases h with hnone | hroom
    · exact .inl (by simpa using hnone)
    · exact .inr (decide_eq_false (Nat.not_le.mpr hroom))
  rw [offer, hfull]
  rfl

/-- What was offered to a queue since it was made, and what its reader took. -/
structure Relays (offered taken : List α) (q : Queue α) : Prop where
  inOrder : (taken ++ q.items).Sublist offered
  latest : q.items <:+ offered
  bounded : q.maxsize = 0 ∨ q.items.length ≤ q.maxsize

theorem relays_new (maxsize : Nat) : Relays [] [] (⟨maxsize, []⟩ : Queue α) :=
  ⟨List.Sublist.refl _, List.suffix_refl _, .inr (Nat.zero_le maxsize)⟩

variable {offered taken : List α} {q q' : Queue α}

theorem Relays.offer (h : Relays offered taken q) (item : α) :
    Relays (offered ++ [item]) taken (q.offer item) := by
  have hrest : (if q.full then q.items.tail else q.items) <:+ q.items := by
    split
    · exact List.tail_suffix _
    · exact List.suffix_refl _
  refine ⟨?_, ?_, ?_⟩
  · rw [Queue.offer, ← List.append_assoc]
    exact ((hrest.sublist.append_left taken).trans h.inOrder).append_right _
  · obtain ⟨before, hbefore⟩ := hrest.trans h.latest
    exact ⟨before, by rw [Queue.offer, ← List.append_assoc, hbefore]⟩
  · rcases Nat.eq_zero_or_pos q.maxsize with hnone | hpos
    · exact .inl hnone
    · have hle := h.bounded.resolve_left hpos.ne'
      refine .inr ?_
      rw [Queue.offer, List.length_append, List.length_singleton]
      dsimp only
      split
      · rw [List.length_tail]
        omega
      · next hfree =>
          have hroom : ¬ q.maxsize ≤ q.items.length := by
            simpa [full, hpos.ne'] using hfree
          omega

theorem Relays.take {item : α} (h : Relays offered taken q) (htake : q.take = some (item, q')) :
    Relays offered (taken ++ [item]) q' := by
  obtain ⟨hitems, hsize⟩ := take_eq_some_iff.mp htake
  refine ⟨?_, ?_, ?_⟩
  · rw [List.append_assoc, List.singleton_append, ← hitems]
    exact h.inOrder
  · exact (hitems ▸ List.suffix_cons item q'.items).trans h.latest
  · rw [hsize]
    refine h.bounded.imp_right fun hle => ?_
    rw [hitems, List.length_cons] at hle
    exact (Nat.le_succ _).trans hle

end Queue

end Py
