import Naco.RateLimit
import Mathlib.Data.Finset.Card
import Mathlib.Data.List.Sort
import Mathlib.Tactic.Linarith

/-!
# The sliding window counts exactly

The table is in the order of the last hits. So the keys after one key were hit since it was hit itself,
and it is thrown out for a new key only when as many others were hit as the table holds. What a hit drops
from a queue is too old for every later hit, and the rest of the accepted hits is the queue.
-/

namespace Naco

open Py

namespace SlidingWindow

/-- A call on the window. -/
inductive Call where
  | hit (key : String) (now : ℚ)
  | reset (key : String)

def Call.time : Call → Option ℚ
  | .hit _ now => some now
  | .reset _ => none

def Call.hitKey : Call → Option String
  | .hit key _ => some key
  | .reset _ => none

/-- The window after one call. -/
def call (throttle : SlidingWindow) : Call → SlidingWindow
  | .hit key now => (throttle.hit key now).2
  | .reset key => throttle.reset key

/-- The window after the calls. -/
def run (throttle : SlidingWindow) (calls : List Call) : SlidingWindow :=
  calls.foldl call throttle

/-- The times of the accepted hits of a key since its last reset. -/
def accepted (throttle : SlidingWindow) (key : String) : List Call → List ℚ → List ℚ
  | [], hits => hits
  | .hit other now :: calls, hits =>
      let (ok, next) := throttle.hit other now
      next.accepted key calls (if other = key && ok then hits ++ [now] else hits)
  | .reset other :: calls, hits =>
      (throttle.reset other).accepted key calls (if other = key then [] else hits)

/-- The keys that were hit. -/
def hitKeys (calls : List Call) : Finset String :=
  (calls.filterMap Call.hitKey).toFinset

/-- Fewer than `count` other keys are hit between two consecutive hits of the key. -/
def FewBetween (count : Nat) (key : String) (calls : List Call) : Prop :=
  ∀ before now between later after, calls = before ++ .hit key now :: (between ++ .hit key later :: after) →
    key ∉ hitKeys between → (hitKeys between).card < count

/-! ### One hit -/

/-- The dictionary that a hit writes to: a full one drops its oldest key for a new one. -/
def room (throttle : SlidingWindow) (key : String) : Dict String (List ℚ) :=
  if (throttle.hits.get? key).isNone ∧ throttle.maxKeys ≤ throttle.hits.size then throttle.hits.popFirst
  else throttle.hits

/-- The hits of a key in the window that ends now. -/
def recent (throttle : SlidingWindow) (key : String) (now : ℚ) : List ℚ :=
  ((throttle.hits.get? key).getD []).dropWhile (· ≤ now - throttle.window)

/-- The queue of a key after a hit. -/
def queue (throttle : SlidingWindow) (key : String) (now : ℚ) : List ℚ :=
  if throttle.limit ≤ (throttle.recent key now).length then throttle.recent key now
  else throttle.recent key now ++ [now]

theorem items_set_concat {d : Dict String (List ℚ)} {init : List (String × List ℚ)} {key : String}
    {value : List ℚ} (h : d.items = init ++ [(key, value)]) (value' : List ℚ) :
    (d.set key value').items = init ++ [(key, value')] := by
  have hmem : key ∈ d.items.map Prod.fst := by
    rw [h]
    simp
  have hinit : ∀ item ∈ init, item.1 ≠ key := by
    have hnodup := d.nodup
    rw [h, List.map_append, List.nodup_append] at hnodup
    exact fun item hitem => hnodup.2.2 _ (List.mem_map_of_mem hitem) _ (by simp)
  rw [Dict.set, dif_pos hmem]
  change d.items.map _ = _
  rw [h, List.map_append]
  refine congrArg₂ (· ++ ·) ?_ (by simp)
  refine (List.map_congr_left fun item hitem => ?_).trans (List.map_id _)
  exact if_neg (hinit item hitem)

theorem get?_room {throttle : SlidingWindow} {key : String} (h : throttle.hits.get? key = none) :
    (throttle.room key).get? key = none := by
  rw [room]
  split
  · cases hpop : throttle.hits.popFirst.get? key with
    | none => rfl
    | some value => exact absurd (h.symm.trans (Dict.get?_of_get?_popFirst hpop)) (Option.some_ne_none _).symm
  · exact h

/-- The dictionary as the queue is written to it: the key is last. -/
theorem hit_eq (throttle : SlidingWindow) (key : String) (now : ℚ) :
    ∃ hits : Dict String (List ℚ),
      hits.items = ((throttle.room key).erase key).items ++ [(key, (throttle.hits.get? key).getD [])] ∧
      throttle.hit key now =
        (decide ((throttle.recent key now).length < throttle.limit),
          { throttle with hits := hits.set key (throttle.queue key now) }) := by
  cases hget : throttle.hits.get? key with
  | some old =>
      have hmove : throttle.hits.moveToEnd key = throttle.hits.setLast key old := by
        simp [Dict.moveToEnd, hget]
      have hroom : throttle.room key = throttle.hits := if_neg (by simp [hget])
      refine ⟨throttle.hits.setLast key old, by rw [hroom]; rfl, ?_⟩
      simp only [hit, hget, hmove, Dict.get?_setLast, if_true, queue, recent]
      split
      · next hfull => rw [decide_eq_false (Nat.not_lt.mpr hfull)]
      · next hfull => rw [decide_eq_true (Nat.lt_of_not_le hfull)]
  | none =>
      have hroom : throttle.room key =
          if throttle.maxKeys ≤ throttle.hits.size then throttle.hits.popFirst else throttle.hits := by
        simp [room, hget]
      refine ⟨(throttle.room key).set key [], ?_, ?_⟩
      · rw [Dict.items_erase_of_get?_none (get?_room hget)]
        exact Dict.items_set_of_get?_none (get?_room hget) []
      · simp only [hit, hget, ← hroom, Dict.get?_set, if_true, queue, recent, Option.getD_some,
          Option.getD_none]
        split
        · next hfull => rw [decide_eq_false (Nat.not_lt.mpr hfull)]
        · next hfull => rw [decide_eq_true (Nat.lt_of_not_le hfull)]

/-- What a hit does: the key goes last, with its queue; all else stays in its place. -/
theorem hit_spec (throttle : SlidingWindow) (key : String) (now : ℚ) :
    (throttle.hit key now).1 = decide ((throttle.recent key now).length < throttle.limit) ∧
      (throttle.hit key now).2.hits.items =
        ((throttle.room key).erase key).items ++ [(key, throttle.queue key now)] ∧
      (throttle.hit key now).2.limit = throttle.limit ∧
      (throttle.hit key now).2.window = throttle.window ∧
      (throttle.hit key now).2.maxKeys = throttle.maxKeys := by
  obtain ⟨hits, hitems, hhit⟩ := hit_eq throttle key now
  rw [hhit]
  exact ⟨rfl, items_set_concat hitems _, rfl, rfl, rfl⟩

theorem get?_hit (throttle : SlidingWindow) (key other : String) (now : ℚ) :
    (throttle.hit key now).2.hits.get? other =
      if other = key then some (throttle.queue key now) else (throttle.room key).get? other := by
  obtain ⟨-, hitems, -⟩ := hit_spec throttle key now
  have hlast : (throttle.hit key now).2.hits =
      (throttle.room key).setLast key (throttle.queue key now) := by
    generalize (throttle.hit key now).2.hits = hits at hitems
    cases hits
    cases hitems
    rfl
  rw [hlast, Dict.get?_setLast]

/-! ### The bound -/

theorem size_call {throttle : SlidingWindow} (hmax : 1 ≤ throttle.maxKeys)
    (h : throttle.hits.size ≤ throttle.maxKeys) (c : Call) :
    (throttle.call c).hits.size ≤ (throttle.call c).maxKeys := by
  cases c with
  | reset key => exact (List.length_filter_le _ _).trans h
  | hit key now =>
      obtain ⟨-, hitems, -, -, hkeys⟩ := hit_spec throttle key now
      rw [call, hkeys, Dict.size, hitems, List.length_append, List.length_singleton]
      cases hget : throttle.hits.get? key with
      | some old =>
          -- the key gives up the place that it had
          have hroom : throttle.room key = throttle.hits := if_neg (by simp [hget])
          have hless : (throttle.hits.erase key).items.length < throttle.hits.size :=
            Dict.size_erase_lt (by rw [Dict.contains, hget]; rfl)
          rw [hroom]
          omega
      | none =>
          rw [Dict.items_erase_of_get?_none (get?_room hget), room]
          split
          · rw [Dict.popFirst, List.length_tail, ← Dict.size]
            omega
          · next hfull =>
              rw [← Dict.size]
              simp only [hget, Option.isNone_none, true_and] at hfull
              omega

theorem run_append (throttle : SlidingWindow) (calls calls' : List Call) :
    throttle.run (calls ++ calls') = (throttle.run calls).run calls' :=
  List.foldl_append

theorem call_settings (throttle : SlidingWindow) (c : Call) :
    (throttle.call c).limit = throttle.limit ∧ (throttle.call c).window = throttle.window ∧
      (throttle.call c).maxKeys = throttle.maxKeys := by
  cases c with
  | hit key now => exact (hit_spec throttle key now).2.2
  | reset key => exact ⟨rfl, rfl, rfl⟩

theorem run_settings (throttle : SlidingWindow) (calls : List Call) :
    (throttle.run calls).limit = throttle.limit ∧ (throttle.run calls).window = throttle.window ∧
      (throttle.run calls).maxKeys = throttle.maxKeys := by
  induction calls generalizing throttle with
  | nil => exact ⟨rfl, rfl, rfl⟩
  | cons c calls ih =>
      obtain ⟨hlimit, hwindow, hkeys⟩ := call_settings throttle c
      obtain ⟨hlimit', hwindow', hkeys'⟩ := ih (throttle.call c)
      exact ⟨hlimit'.trans hlimit, hwindow'.trans hwindow, hkeys'.trans hkeys⟩

theorem size_run {throttle : SlidingWindow} (hmax : 1 ≤ throttle.maxKeys)
    (h : throttle.hits.size ≤ throttle.maxKeys) (calls : List Call) :
    (throttle.run calls).hits.size ≤ throttle.maxKeys := by
  induction calls generalizing throttle with
  | nil => exact h
  | cons c calls ih =>
      have hkeys := (call_settings throttle c).2.2
      have hsize := size_call hmax h c
      have hrun := ih (hkeys ▸ hmax) hsize
      rwa [hkeys] at hrun

/-! ### What the table holds of one key -/

/-- The times of the hits. -/
def times (calls : List Call) : List ℚ :=
  calls.filterMap Call.time

/-- The keys hit since the last hit of the key. -/
def othersSince (key : String) (calls : List Call) : Finset String :=
  calls.foldl (fun others c =>
    match c with
    | .hit other _ => if other = key then ∅ else insert other others
    | .reset _ => others) ∅

theorem othersSince_hit {key other : String} {now : ℚ} {calls : List Call} :
    othersSince key (calls ++ [.hit other now]) =
      if other = key then ∅ else insert other (othersSince key calls) :=
  List.foldl_append

theorem othersSince_reset {key other : String} {calls : List Call} :
    othersSince key (calls ++ [.reset other]) = othersSince key calls :=
  List.foldl_append

theorem hitKeys_hit {key : String} {now : ℚ} {calls : List Call} :
    hitKeys (calls ++ [.hit key now]) = insert key (hitKeys calls) := by
  ext other
  simp [hitKeys, Call.hitKey]

theorem hitKeys_reset {key : String} {calls : List Call} :
    hitKeys (calls ++ [.reset key]) = hitKeys calls := by
  rw [hitKeys, hitKeys, List.filterMap_append]
  exact congrArg List.toFinset (List.append_nil _)

/-- A key that was hit was hit last somewhere. -/
theorem exists_last_hit {key : String} {calls : List Call} (h : key ∈ hitKeys calls) :
    ∃ before now between, calls = before ++ .hit key now :: between ∧ key ∉ hitKeys between ∧
      othersSince key calls = hitKeys between := by
  induction calls using List.reverseRecOn with
  | nil => simp [hitKeys] at h
  | append_singleton calls c ih =>
      cases c with
      | reset other =>
          rw [hitKeys_reset] at h
          obtain ⟨before, now, between, rfl, hbetween, hothers⟩ := ih h
          refine ⟨before, now, between ++ [.reset other], by simp, ?_, ?_⟩
          · rwa [hitKeys_reset]
          · rw [othersSince_reset, hothers, hitKeys_reset]
      | hit other now =>
          by_cases hkey : other = key
          · subst hkey
            refine ⟨calls, now, [], rfl, by simp [hitKeys], ?_⟩
            rw [othersSince_hit, if_pos rfl]
            rfl
          · rw [hitKeys_hit, Finset.mem_insert] at h
            obtain ⟨before, last, between, rfl, hbetween, hothers⟩ :=
              ih (h.resolve_left fun heq => hkey heq.symm)
            refine ⟨before, last, between ++ [.hit other now], by simp, ?_, ?_⟩
            · rw [hitKeys_hit, Finset.mem_insert, not_or]
              exact ⟨fun heq => hkey heq.symm, hbetween⟩
            · rw [othersSince_hit, if_neg hkey, hothers, hitKeys_hit]

/-- Fewer others were hit since the last hit of the key than would throw it out. -/
theorem card_othersSince {count : Nat} {key : String} {now : ℚ} {before after : List Call}
    (hfew : FewBetween count key (before ++ .hit key now :: after)) (h : key ∈ hitKeys before) :
    (othersSince key before).card < count := by
  obtain ⟨earlier, last, between, rfl, hbetween, hothers⟩ := exists_last_hit h
  rw [hothers]
  exact hfew earlier last between now after (by simp) hbetween

/-- The queue of the key ends the accepted hits; what it lacks is too old. -/
structure Counts (key : String) (calls : List Call) (throttle : SlidingWindow) (hits : List ℚ) :
    Prop where
  sorted : hits.Pairwise (· ≤ ·)
  past : ∀ time ∈ hits, time ∈ times calls
  fresh : key ∉ hitKeys calls → throttle.hits.get? key = none ∧ hits = []
  /-- The keys after it were hit since. -/
  later : ∀ before queue after, throttle.hits.items = before ++ (key, queue) :: after →
    ∀ item ∈ after, item.1 ∈ othersSince key calls
  held : (throttle.hits.get? key = none ∧ hits = []) ∨
    (∃ dropped queue, throttle.hits.get? key = some queue ∧ hits = dropped ++ queue ∧
      ∀ time ∈ dropped, ∃ now ∈ times calls, time ≤ now - throttle.window) ∨
    (key ∈ hitKeys calls ∧ throttle.maxKeys ≤ (othersSince key calls).card)

theorem dropWhile_eq_filter {hits : List ℚ} (h : hits.Pairwise (· ≤ ·)) (bound : ℚ) :
    hits.dropWhile (· ≤ bound) = hits.filter (bound < ·) := by
  induction hits with
  | nil => rfl
  | cons first hits ih =>
      obtain ⟨hfirst, hrest⟩ := List.pairwise_cons.mp h
      by_cases hold : first ≤ bound
      · rw [List.dropWhile_cons_of_pos (by simpa using hold),
          List.filter_cons_of_neg (by simpa using hold), ih hrest]
      · have hall : ∀ time ∈ first :: hits, bound < time := by
          refine List.forall_mem_cons.mpr ⟨not_le.mp hold, fun time htime => ?_⟩
          exact (not_le.mp hold).trans_le (hfirst time htime)
        rw [List.dropWhile_cons_of_neg (by simpa using hold),
          List.filter_eq_self.mpr fun time htime => decide_eq_true (hall time htime)]

/-- While the key is held, a hit counts the accepted hits in the window. -/
theorem recent_length {key : String} {calls : List Call} {throttle : SlidingWindow} {hits : List ℚ}
    {now : ℚ} (h : Counts key calls throttle hits) (hnow : ∀ time ∈ times calls, time ≤ now)
    (hfew : key ∈ hitKeys calls → (othersSince key calls).card < throttle.maxKeys) :
    ∃ dropped, hits = dropped ++ throttle.recent key now ∧
      (∀ time ∈ dropped, time ≤ now - throttle.window) ∧
      (throttle.recent key now) = hits.filter (now - throttle.window < ·) := by
  rcases h.held with ⟨hnone, rfl⟩ | ⟨dropped, queue, hqueue, rfl, hdropped⟩ | ⟨hhit, hfull⟩
  · have hrecent : throttle.recent key now = [] := by
      rw [recent, hnone]
      rfl
    exact ⟨[], by rw [hrecent, List.nil_append], by simp, hrecent⟩
  · have hold : ∀ time ∈ dropped, time ≤ now - throttle.window := by
      intro time htime
      obtain ⟨last, hlast, hle⟩ := hdropped time htime
      exact hle.trans (sub_le_sub_right (hnow last hlast) _)
    have hsorted := (List.pairwise_append.mp h.sorted).2.1
    refine ⟨dropped ++ queue.takeWhile (· ≤ now - throttle.window), ?_, ?_, ?_⟩
    · rw [recent, hqueue, Option.getD_some, List.append_assoc, List.takeWhile_append_dropWhile]
    · intro time htime
      rcases List.mem_append.mp htime with htime | htime
      · exact hold time htime
      · simpa using List.mem_takeWhile_imp htime
    · have hnone : dropped.filter (now - throttle.window < ·) = [] :=
        List.filter_eq_nil_iff.mpr fun time htime => by simpa using hold time htime
      rw [recent, hqueue, Option.getD_some, dropWhile_eq_filter hsorted, List.filter_append, hnone,
        List.nil_append]
  · exact absurd (hfew hhit) (not_lt.mpr hfull)

/-! ### What each call keeps -/

theorem exists_split_of_sublist {items items' : List (String × List ℚ)} (h : items'.Sublist items)
    {before after : List (String × List ℚ)} {item : String × List ℚ}
    (hsplit : items' = before ++ item :: after) :
    ∃ before' after', items = before' ++ item :: after' ∧ after.Sublist after' := by
  rw [hsplit] at h
  obtain ⟨front, back, rfl, -, hback⟩ := List.append_sublist_iff.mp h
  obtain ⟨start, rest, rfl, hmem, hrest⟩ := List.cons_sublist_iff.mp hback
  obtain ⟨left, right, rfl⟩ := List.append_of_mem hmem
  exact ⟨front ++ left, right ++ rest, by simp, hrest.trans (List.sublist_append_right _ _)⟩

theorem exists_split_of_concat {init before after : List (String × List ℚ)}
    {item last : String × List ℚ} (h : init ++ [last] = before ++ item :: after) :
    item = last ∧ after = [] ∨ ∃ rest, after = rest ++ [last] ∧ init = before ++ item :: rest := by
  rcases after.eq_nil_or_concat with rfl | ⟨rest, final, rfl⟩
  · exact .inl ⟨(List.head_eq_of_cons_eq (List.append_inj_right' h rfl)).symm, rfl⟩
  · rw [List.concat_eq_append, ← List.cons_append, ← List.append_assoc] at h
    obtain rfl : last = final := List.head_eq_of_cons_eq (List.append_inj_right' h rfl)
    exact .inr ⟨rest, List.concat_eq_append, List.append_inj_left' h rfl⟩

theorem times_hit {key : String} {now : ℚ} {calls : List Call} :
    times (calls ++ [.hit key now]) = times calls ++ [now] :=
  List.filterMap_append

theorem times_reset {key : String} {calls : List Call} :
    times (calls ++ [.reset key]) = times calls :=
  List.filterMap_append.trans (List.append_nil _)

section

variable {key : String} {calls : List Call} {throttle : SlidingWindow} {hits : List ℚ}

theorem Counts.reset (h : Counts key calls throttle hits) (other : String) :
    Counts key (calls ++ [.reset other]) (throttle.reset other) (if other = key then [] else hits) where
  sorted := by
    split
    · exact List.Pairwise.nil
    · exact h.sorted
  past := by
    rw [times_reset]
    split
    · exact fun _ htime => nomatch htime
    · exact h.past
  fresh := by
    rw [hitKeys_reset]
    intro hkey
    obtain ⟨hnone, rfl⟩ := h.fresh hkey
    rw [ite_self]
    refine ⟨?_, rfl⟩
    change (throttle.hits.erase other).get? key = none
    rw [Dict.get?_erase, hnone, ite_self]
  later := by
    intro before queue after hsplit item hitem
    obtain ⟨before', after', hitems, hafter⟩ :=
      exists_split_of_sublist (show (throttle.reset other).hits.items.Sublist throttle.hits.items from
        List.filter_sublist) hsplit
    rw [othersSince_reset]
    exact h.later before' queue after' hitems item (hafter.subset hitem)
  held := by
    have hget : (throttle.reset other).hits.get? key =
        if key = other then none else throttle.hits.get? key := Dict.get?_erase _ _ _
    by_cases hkey : other = key
    · exact .inl ⟨by rw [hget, if_pos hkey.symm], if_pos hkey⟩
    · rw [if_neg hkey, hget, if_neg (Ne.symm hkey), times_reset, hitKeys_reset, othersSince_reset]
      exact h.held

/-- A hit of the key itself, while it is held. -/
theorem Counts.hit_self {now : ℚ} (h : Counts key calls throttle hits)
    (hnow : ∀ time ∈ times calls, time ≤ now)
    (hfew : key ∈ hitKeys calls → (othersSince key calls).card < throttle.maxKeys) :
    Counts key (calls ++ [.hit key now]) (throttle.hit key now).2
      (if (throttle.hit key now).1 then hits ++ [now] else hits) := by
  obtain ⟨hok, hitems, -, hwindow, -⟩ := hit_spec throttle key now
  obtain ⟨dropped, hsplit, hdropped, -⟩ := recent_length h hnow hfew
  have hpast : ∀ time ∈ hits, time ≤ now := fun time htime => hnow time (h.past time htime)
  refine ⟨?_, ?_, ?_, ?_, .inr (.inl ⟨dropped, throttle.queue key now, ?_, ?_, ?_⟩)⟩
  · split
    · refine List.pairwise_append.mpr ⟨h.sorted, List.pairwise_singleton _ _, fun time htime last hlast => ?_⟩
      rw [List.mem_singleton.mp hlast]
      exact hpast time htime
    · exact h.sorted
  · rw [times_hit]
    intro time htime
    split at htime
    · rcases List.mem_append.mp htime with htime | htime
      · exact List.mem_append_left _ (h.past time htime)
      · exact List.mem_append_right _ htime
    · exact List.mem_append_left _ (h.past time htime)
  · intro hkey
    rw [hitKeys_hit] at hkey
    exact absurd (Finset.mem_insert_self _ _) hkey
  · -- nothing comes after the last item
    intro before queue after hafter item hitem
    rw [hitems] at hafter
    rcases exists_split_of_concat hafter with ⟨-, rfl⟩ | ⟨rest, -, hinit⟩
    · cases hitem
    · have hmem : (key, queue) ∈ ((throttle.room key).erase key).items := by
        rw [hinit]
        simp
      simp [Dict.erase] at hmem
  · rw [get?_hit, if_pos rfl]
  · rw [hok, queue]
    by_cases hfull : throttle.limit ≤ (throttle.recent key now).length
    · rw [if_pos hfull, if_neg (by simpa using hfull)]
      exact hsplit
    · rw [if_neg hfull, if_pos (by simpa using hfull), ← List.append_assoc, ← hsplit]
  · rw [times_hit, hwindow]
    exact fun time htime => ⟨now, by simp, hdropped time htime⟩

/-- A key that a hit of another throws out had that many others after it. -/
theorem full_of_popped {other : String} {queue : List ℚ} (h : Counts key calls throttle hits)
    (hqueue : throttle.hits.get? key = some queue) (hroom : (throttle.room other).get? key = none) :
    throttle.maxKeys ≤ (insert other (othersSince key calls)).card := by
  rw [room] at hroom
  split at hroom
  · next hfull =>
      obtain ⟨hnone, hsize⟩ := hfull
      have hmem := Dict.get?_eq_some_iff.mp hqueue
      cases hitems : throttle.hits.items with
      | nil =>
          rw [hitems] at hmem
          cases hmem
      | cons first rest =>
          have hnotRest : (key, queue) ∉ rest := by
            intro hrest
            have hpop : throttle.hits.popFirst.get? key = some queue := by
              rw [Dict.get?_eq_some_iff]
              change (key, queue) ∈ throttle.hits.items.tail
              rw [hitems]
              exact hrest
            rw [hroom] at hpop
            cases hpop
          rw [hitems] at hmem
          obtain rfl := (List.mem_cons.mp hmem).resolve_right hnotRest
          have hlater := h.later [] queue rest hitems
          have hnodup := throttle.hits.nodup
          rw [hitems, List.map_cons, List.nodup_cons] at hnodup
          have hother : other ∉ (rest.map Prod.fst).toFinset := by
            rw [List.mem_toFinset]
            intro hmem
            obtain ⟨item, hitem, heq⟩ := List.mem_map.mp hmem
            refine Dict.not_mem_of_get?_none (Option.isNone_iff_eq_none.mp hnone) item ?_ heq
            rw [hitems]
            exact List.mem_cons_of_mem _ hitem
          have hsubset : insert other (rest.map Prod.fst).toFinset ⊆
              insert other (othersSince key calls) := by
            refine Finset.insert_subset_insert _ fun k hk => ?_
            obtain ⟨item, hitem, rfl⟩ := List.mem_map.mp (List.mem_toFinset.mp hk)
            exact hlater item hitem
          calc
            throttle.maxKeys ≤ throttle.hits.size := hsize
            _ = (insert other (rest.map Prod.fst).toFinset).card := by
              rw [Finset.card_insert_of_notMem hother, List.toFinset_card_of_nodup hnodup.2,
                List.length_map, Dict.size, hitems, List.length_cons]
            _ ≤ _ := Finset.card_le_card hsubset
  · rw [hqueue] at hroom
    cases hroom

theorem Counts.hit_other {other : String} {now : ℚ} (h : Counts key calls throttle hits)
    (hkey : other ≠ key) :
    Counts key (calls ++ [.hit other now]) (throttle.hit other now).2 hits := by
  obtain ⟨-, hitems, -, hwindow, hkeys⟩ := hit_spec throttle other now
  have hget : (throttle.hit other now).2.hits.get? key = (throttle.room other).get? key := by
    rw [get?_hit, if_neg (Ne.symm hkey)]
  have hforgets {queue : List ℚ} (hsome : (throttle.room other).get? key = some queue) :
      throttle.hits.get? key = some queue := by
    rw [room] at hsome
    split at hsome
    · exact Dict.get?_of_get?_popFirst hsome
    · exact hsome
  have hnone (hnone : throttle.hits.get? key = none) : (throttle.room other).get? key = none := by
    cases hroom : (throttle.room other).get? key with
    | none => rfl
    | some queue => exact absurd (hnone.symm.trans (hforgets hroom)) (Option.some_ne_none _).symm
  refine ⟨h.sorted, ?_, ?_, ?_, ?_⟩
  · rw [times_hit]
    exact fun time htime => List.mem_append_left _ (h.past time htime)
  · intro hfresh
    rw [hitKeys_hit, Finset.mem_insert, not_or] at hfresh
    obtain ⟨hempty, hhits⟩ := h.fresh hfresh.2
    exact ⟨hget.trans (hnone hempty), hhits⟩
  · intro before queue after hsplit item hitem
    rw [othersSince_hit, if_neg hkey, Finset.mem_insert]
    rw [hitems] at hsplit
    rcases exists_split_of_concat hsplit with ⟨heq, -⟩ | ⟨rest, rfl, hinit⟩
    · exact absurd (congrArg Prod.fst heq).symm hkey
    · rcases List.mem_append.mp hitem with hitem | hitem
      · have hsublist : ((throttle.room other).erase other).items.Sublist throttle.hits.items := by
          refine List.filter_sublist.trans ?_
          rw [room]
          split
          · exact List.tail_sublist _
          · exact List.Sublist.refl _
        obtain ⟨before', after', hold, hafter⟩ := exists_split_of_sublist hsublist hinit
        exact .inr (h.later before' queue after' hold item (hafter.subset hitem))
      · rw [List.mem_singleton.mp hitem]
        exact .inl rfl
  · rw [hget, times_hit, hwindow, hkeys, hitKeys_hit, othersSince_hit, if_neg hkey]
    rcases h.held with ⟨hempty, hhits⟩ | ⟨dropped, queue, hqueue, hhits, hdropped⟩ | ⟨hhit, hfull⟩
    · exact .inl ⟨hnone hempty, hhits⟩
    · cases hroom : (throttle.room other).get? key with
      | some found =>
          obtain rfl := Option.some.inj ((hforgets hroom).symm.trans hqueue)
          refine .inr (.inl ⟨dropped, found, rfl, hhits, fun time htime => ?_⟩)
          obtain ⟨last, hlast, hle⟩ := hdropped time htime
          exact ⟨last, List.mem_append_left _ hlast, hle⟩
      | none =>
          refine .inr (.inr ⟨Finset.mem_insert_of_mem ?_, full_of_popped h hqueue hroom⟩)
          by_contra hfresh
          exact absurd ((h.fresh hfresh).1.symm.trans hqueue) (Option.some_ne_none queue).symm
    · exact .inr (.inr ⟨Finset.mem_insert_of_mem hhit,
        hfull.trans (Finset.card_le_card (Finset.subset_insert _ _))⟩)

end

/-! ### Whole runs -/

theorem accepted_append (throttle : SlidingWindow) (key : String) (calls calls' : List Call)
    (hits : List ℚ) :
    throttle.accepted key (calls ++ calls') hits =
      (throttle.run calls).accepted key calls' (throttle.accepted key calls hits) := by
  induction calls generalizing throttle hits with
  | nil => rfl
  | cons c calls ih => cases c <;> exact ih _ _

theorem accepted_hit (throttle : SlidingWindow) (key other : String) (now : ℚ) (hits : List ℚ) :
    throttle.accepted key [.hit other now] hits =
      if other = key then (if (throttle.hit other now).1 then hits ++ [now] else hits) else hits := by
  by_cases hkey : other = key
  · subst hkey
    cases hok : (throttle.hit other now).1 <;> simp [accepted, hok]
  · simp [accepted, hkey]

theorem FewBetween.of_append {count : Nat} {key : String} {calls calls' : List Call}
    (h : FewBetween count key (calls ++ calls')) : FewBetween count key calls := by
  rintro before now between later after rfl hbetween
  exact h before now between later (after ++ calls') (by simp) hbetween

theorem counts_run {throttle : SlidingWindow} (hempty : throttle.hits = Dict.empty) {key : String}
    {calls : List Call} (hsorted : (times calls).Pairwise (· ≤ ·))
    (hfew : FewBetween throttle.maxKeys key calls) :
    Counts key calls (throttle.run calls) (throttle.accepted key calls []) := by
  induction calls using List.reverseRecOn with
  | nil =>
      have hnone : throttle.hits.get? key = none := by
        rw [hempty]
        rfl
      refine ⟨List.Pairwise.nil, List.forall_mem_nil _, fun _ => ⟨hnone, rfl⟩, ?_, .inl ⟨hnone, rfl⟩⟩
      intro before queue after hsplit
      rw [run, List.foldl_nil, hempty] at hsplit
      exact absurd (congrArg List.length hsplit) (by simp [Dict.empty])
  | append_singleton calls c ih =>
      have hprefix : (times calls).Pairwise (· ≤ ·) := by
        rw [times, List.filterMap_append] at hsorted
        exact (List.pairwise_append.mp hsorted).1
      have hcounts := ih hprefix hfew.of_append
      rw [run_append, accepted_append]
      cases c with
      | reset other => exact hcounts.reset other
      | hit other now =>
          by_cases hkey : other = key
          · subst hkey
            rw [times_hit] at hsorted
            have hnow : ∀ time ∈ times calls, time ≤ now := fun time htime =>
              (List.pairwise_append.mp hsorted).2.2 time htime now (List.mem_singleton_self _)
            have hself := hcounts.hit_self hnow fun hhit => by
              rw [(run_settings throttle calls).2.2]
              exact card_othersSince hfew hhit
            rw [accepted_hit, if_pos rfl]
            exact hself
          · have hother := @Counts.hit_other _ _ _ _ other now hcounts hkey
            rw [accepted_hit, if_neg hkey]
            exact hother

/-- The window accepts a hit exactly when fewer than the limit were accepted in it, as long as too few
other keys come in between to throw the key out; and it never holds more keys than it may. -/
theorem sliding_window_exact (limit maxKeys : Nat) (window : ℚ) (hmax : 1 ≤ maxKeys)
    (calls : List Call) (hsorted : (times calls).Pairwise (· ≤ ·)) :
    (∀ key, FewBetween maxKeys key calls → ∀ before now after,
      calls = before ++ .hit key now :: after →
        (((({ limit, window, maxKeys } : SlidingWindow).run before).hit key now).1 = true ↔
          ((({ limit, window, maxKeys } : SlidingWindow).accepted key before []).filter
            (now - window < ·)).length < limit)) ∧
      ∀ before after, calls = before ++ after →
        (({ limit, window, maxKeys } : SlidingWindow).run before).hits.size ≤ maxKeys := by
  constructor
  · rintro key hfew before now after rfl
    have hfew' : FewBetween maxKeys key before := hfew.of_append
    rw [times, List.filterMap_append] at hsorted
    obtain ⟨hearlier, -, hnow⟩ := List.pairwise_append.mp hsorted
    have hcounts := @counts_run { limit, window, maxKeys } rfl key before hearlier hfew'
    obtain ⟨hlimit, hwindow, hkeys⟩ := run_settings { limit, window, maxKeys } before
    obtain ⟨-, -, -, hrecent⟩ := recent_length hcounts
      (fun time htime => hnow time htime now List.mem_cons_self) fun hhit => by
        rw [hkeys]
        exact card_othersSince hfew hhit
    rw [(hit_spec _ key now).1, decide_eq_true_eq, hrecent, hlimit, hwindow]
  · rintro before after -
    exact @size_run { limit, window, maxKeys } hmax (Nat.zero_le _) before

/-- Fewer others than `count` before each hit of the key, from wherever they are counted. -/
theorem fewBetween_of_take {count : Nat} {key : String} {calls : List Call}
    (h : ∀ i < calls.length, ∀ n < calls.length, key ∉ hitKeys ((calls.drop i).take n) →
      (calls[i + n]?.bind Call.hitKey) = some key → (hitKeys ((calls.drop i).take n)).card < count) :
    FewBetween count key calls := by
  rintro before now between later after rfl hbetween
  have hdrop : (before ++ .hit key now :: (between ++ .hit key later :: after)).drop
      (before.length + 1) = between ++ .hit key later :: after := by
    rw [List.drop_append, List.drop_of_length_le (by omega), Nat.add_sub_cancel_left]
    rfl
  have hplace := h (before.length + 1) (by simp) between.length (by simp; omega)
  rw [hdrop, List.take_left] at hplace
  refine hplace hbetween ?_
  rw [← List.getElem?_drop, hdrop, List.getElem?_append_right le_rfl, Nat.sub_self]
  rfl

/-- Two hits a minute, and room for two keys: the third hit of `a` is refused until the first is a minute
old, `c` throws `b` out, and a reset lets `a` hit twice again. -/
def crowd : List Call :=
  [.hit "a" 0, .hit "b" 1, .hit "a" 2, .hit "a" 59, .hit "c" 60, .hit "a" 60, .hit "a" 61, .reset "a",
    .hit "a" 61, .hit "a" 61]

theorem sliding_window_exact_crowd :
    (∀ before now after, crowd = before ++ .hit "a" now :: after →
      (((({ limit := 2, window := 60, maxKeys := 2 } : SlidingWindow).run before).hit "a" now).1 = true ↔
        ((({ limit := 2, window := 60, maxKeys := 2 } : SlidingWindow).accepted "a" before []).filter
          (now - 60 < ·)).length < 2)) ∧
      (∀ before after, crowd = before ++ after →
        (({ limit := 2, window := 60, maxKeys := 2 } : SlidingWindow).run before).hits.size ≤ 2) ∧
      ({ limit := 2, window := 60, maxKeys := 2 } : SlidingWindow).accepted "a" crowd [] = [61, 61] := by
  have hfew : FewBetween 2 "a" crowd := fewBetween_of_take (by decide +kernel)
  obtain ⟨hexact, hsize⟩ := sliding_window_exact 2 2 60 (by decide) crowd (by decide +kernel)
  exact ⟨hexact "a" hfew, hsize, by decide +kernel⟩

end SlidingWindow

end Naco
