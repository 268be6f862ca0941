import Naco.Proof.Delays

/-!
# What the guess guard keeps in memory

User names come from outside, so each of the three maps is bounded. A source that failed stays among the
sources of its identity, as the oldest failure makes room for it; but a failure whose wait does not fit in
a float raises before its source is written down.
-/

namespace Naco

open Py

namespace GuessGuard

/-! ### Calls -/

inductive Call where
  | failure (identity source : String)
  | success (identity source : String)
  | delayFor (identity source : String)

/-- The call that the throttle of identities with their sources gets. -/
def Call.ofPair : Call → DelayCall
  | .failure identity source => .failure (pairKey identity source)
  | .success identity source => .success (pairKey identity source)
  | .delayFor identity source => .delayFor (pairKey identity source)

/-- The guard after a call. -/
def call (guard : GuessGuard) (now : ℚ) : Call → GuessGuard
  | .failure identity source => (guard.failure identity source now).2
  | .success identity source => guard.success identity source
  | .delayFor identity source => (guard.delayFor identity source now).2

/-- The guard after calls at these times. -/
def after (guard : GuessGuard) (calls : List (ℚ × Call)) : GuessGuard :=
  calls.foldl (fun guard call => guard.call call.1 call.2) guard

theorem after_concat (guard : GuessGuard) (before : List (ℚ × Call)) (call : ℚ × Call) :
    guard.after (before ++ [call]) = (guard.after before).call call.1 call.2 :=
  List.foldl_append

/-! ### The steps of a failure -/

/-- The sources that are kept for an identity. -/
def tracked (guard : GuessGuard) (identity : String) : Dict String ℚ :=
  (guard.sources.get? identity).getD .empty

/-- The sources of an identity after one of them failed. -/
def recorded (guard : GuessGuard) (identity source : String) (now : ℚ) : Dict String ℚ :=
  let sources := (guard.failingSources identity now).1.set source now
  if guard.spread * 4 < sources.size then
    ((oldestSource sources).map sources.erase).getD sources
  else sources

/-- All sources as those of an identity are written to them. -/
def room (guard : GuessGuard) (identity : String) (now : ℚ) : Dict String (Dict String ℚ) :=
  let all := (guard.failingSources identity now).2.sources
  if !all.contains identity && guard.maxKeys ≤ all.size then all.popFirst else all

/-- The identities after one of them failed. -/
def slowed (guard : GuessGuard) (identity source : String) (now : ℚ) : ProgressiveDelay :=
  if guard.spread ≤ (guard.recorded identity source now).size then
    (guard.identity.failure identity now).2
  else guard.identity

variable {guard : GuessGuard} {identity other source : String} {now latest : ℚ}

theorem failingSources_with_pair (guard : GuessGuard) (pair : ProgressiveDelay) (identity : String)
    (now : ℚ) : { guard with pair }.failingSources identity now =
      ((guard.failingSources identity now).1, { (guard.failingSources identity now).2 with pair }) := by
  unfold failingSources
  dsimp only
  cases guard.sources.get? identity <;> rfl

/-- Only the sources change when the old ones are dropped. -/
theorem failingSources_eq (guard : GuessGuard) (identity : String) (now : ℚ) :
    (guard.failingSources identity now).2 =
      { guard with sources := (guard.failingSources identity now).2.sources } := by
  unfold failingSources
  cases guard.sources.get? identity <;> rfl

/-- A failure whose wait cannot be computed changes nothing else. -/
theorem failure_of_error {error : Error}
    (h : (guard.pair.failure (pairKey identity source) now).1 = .error error) :
    guard.failure identity source now =
      (.error error, { guard with pair := (guard.pair.failure (pairKey identity source) now).2 }) := by
  unfold failure
  generalize guard.pair.failure (pairKey identity source) now = found at h ⊢
  obtain ⟨result, pair⟩ := found
  obtain rfl : result = .error error := h
  rfl

/-- A failure whose wait is computed is counted, and its source written down. -/
theorem failure_of_ok (h : (guard.pair.failure (pairKey identity source) now).1 = .ok ()) :
    (guard.failure identity source now).2 =
      { guard with
        pair := (guard.pair.failure (pairKey identity source) now).2
        identity := guard.slowed identity source now
        sources := ((guard.room identity now).set identity
          (guard.recorded identity source now)).moveToEnd identity } := by
  unfold failure
  generalize guard.pair.failure (pairKey identity source) now = found at h ⊢
  obtain ⟨result, pair⟩ := found
  obtain rfl : result = .ok () := h
  dsimp only
  rw [failingSources_with_pair, failingSources_eq]
  change (if guard.spread ≤ (guard.recorded identity source now).size then _ else _ :
    Except Error Unit × GuessGuard).2 = _
  by_cases hmany : guard.spread ≤ (guard.recorded identity source now).size
  · rw [if_pos hmany, slowed, if_pos hmany]
    rfl
  · rw [if_neg hmany, slowed, if_neg hmany]
    rfl

/-! ### The sources of an identity -/

/-- Dropping items one after the other leaves those that are not dropped. -/
theorem items_foldl_erase (sources : Dict String ℚ) (stale : List (String × ℚ)) :
    (stale.foldl (fun sources item => sources.erase item.1) sources).items =
      sources.items.filter fun item => decide (item.1 ∉ stale.map Prod.fst) := by
  induction stale generalizing sources with
  | nil => simp
  | cons head stale ih =>
      rw [List.foldl_cons, ih, Dict.erase, List.filter_filter]
      congr 1
      funext item
      by_cases hhead : item.1 = head.1 <;> simp [hhead]

theorem items_failing (guard : GuessGuard) (identity : String) (now : ℚ) :
    (guard.failingSources identity now).1.items =
      (guard.tracked identity).items.filter fun item => decide (now - item.2 ≤ guard.window) := by
  unfold failingSources tracked
  cases guard.sources.get? identity with
  | none => rfl
  | some sources =>
      dsimp only [Option.getD_some]
      rw [items_foldl_erase]
      apply List.filter_congr
      rintro ⟨source, last⟩ hitem
      rw [decide_eq_decide, ← not_lt, not_iff_not, List.mem_map]
      constructor
      · rintro ⟨⟨found, time⟩, hfound, rfl⟩
        obtain ⟨hmem, hstale⟩ := List.mem_filter.mp hfound
        have hsame := (Dict.get?_eq_some_iff.mpr hmem).symm.trans (Dict.get?_eq_some_iff.mpr hitem)
        obtain rfl := Option.some_inj.mp hsame
        exact of_decide_eq_true hstale
      · intro hstale
        exact ⟨(source, last), List.mem_filter.mpr ⟨hitem, decide_eq_true hstale⟩, rfl⟩

theorem get?_sources_failing (guard : GuessGuard) (identity other : String) (now : ℚ) :
    (guard.failingSources identity now).2.sources.get? other =
      if other = identity then
        (guard.sources.get? identity).map fun _ => (guard.failingSources identity now).1
      else guard.sources.get? other := by
  unfold failingSources
  cases hget : guard.sources.get? identity with
  | none =>
      dsimp only [Option.map_none]
      split
      · next heq => rw [heq, hget]
      · rfl
  | some sources => rw [Dict.get?_set]; rfl

theorem contains_sources_failing (guard : GuessGuard) (identity : String) (now : ℚ) :
    (guard.failingSources identity now).2.sources.contains identity = guard.sources.contains identity := by
  rw [Dict.contains, get?_sources_failing, if_pos rfl, Option.isSome_map, Dict.contains]

theorem size_sources_failing (guard : GuessGuard) (identity : String) (now : ℚ) :
    (guard.failingSources identity now).2.sources.size = guard.sources.size := by
  unfold failingSources
  cases hget : guard.sources.get? identity with
  | none => rfl
  | some sources =>
      dsimp only
      rw [Dict.size_set, if_pos (by rw [Dict.contains, hget]; rfl)]

/-! ### The oldest source -/

/-- The older of two items, the first of equals. -/
def older (best : Option (String × ℚ)) (item : String × ℚ) : Option (String × ℚ) :=
  match best with
  | none => some item
  | some found => if item.2 < found.2 then some item else best

theorem foldl_older_mem {items : List (String × ℚ)} {best : Option (String × ℚ)}
    {found : String × ℚ} (h : items.foldl older best = some found) :
    best = some found ∨ found ∈ items := by
  induction items generalizing best with
  | nil => exact .inl h
  | cons item items ih =>
      rcases ih h with hbest | hmem
      · cases best with
        | none => exact .inr (by simp [Option.some_inj.mp hbest])
        | some old =>
            rw [older] at hbest
            split at hbest
            · exact .inr (by simp [Option.some_inj.mp hbest])
            · exact .inl hbest
      · exact .inr (List.mem_cons_of_mem _ hmem)

/-- The oldest is no younger than any. -/
theorem foldl_older_le {items : List (String × ℚ)} {best : Option (String × ℚ)}
    {found : String × ℚ} (h : items.foldl older best = some found) :
    (∀ old ∈ best, found.2 ≤ old.2) ∧ ∀ item ∈ items, found.2 ≤ item.2 := by
  induction items generalizing best with
  | nil =>
      obtain rfl : best = some found := h
      exact ⟨by simp, by simp⟩
  | cons item items ih =>
      obtain ⟨hbest, hitems⟩ := ih h
      rw [List.forall_mem_cons]
      cases best with
      | none => exact ⟨by simp, hbest item rfl, hitems⟩
      | some old =>
          rw [older] at hbest
          split at hbest
          · next hless =>
              have hitem := hbest item rfl
              exact ⟨by simpa using hitem.trans hless.le, hitem, hitems⟩
          · next hless =>
              have hold := hbest old rfl
              exact ⟨by simpa using hold, hold.trans (not_lt.mp hless), hitems⟩

theorem foldl_older_some (items : List (String × ℚ)) (best : String × ℚ) :
    ∃ found, items.foldl older (some best) = some found := by
  induction items generalizing best with
  | nil => exact ⟨best, rfl⟩
  | cons item items ih =>
      rw [List.foldl_cons, older]
      split
      · exact ih item
      · exact ih best

/-- Some source is the oldest, and the last written is not if another is there that is no younger. -/
theorem oldestSource_concat {sources : Dict String ℚ} {items : List (String × ℚ)} {source : String}
    (hitems : sources.items = items ++ [(source, now)]) (hne : items ≠ [])
    (hpast : ∀ item ∈ items, item.2 ≤ now) :
    ∃ oldest ∈ items, oldestSource sources = some oldest.1 ∧ ∀ item ∈ items, oldest.2 ≤ item.2 := by
  obtain ⟨first, rest, rfl⟩ := List.exists_cons_of_ne_nil hne
  obtain ⟨found, hfound⟩ := foldl_older_some rest first
  have hmem : found ∈ first :: rest := by
    rcases foldl_older_mem hfound with hfirst | hmem
    · exact List.mem_cons.mpr (.inl (Option.some_inj.mp hfirst).symm)
    · exact List.mem_cons_of_mem _ hmem
  have hfold : sources.items.foldl older none = some found := by
    rw [hitems, List.foldl_append, List.foldl_cons]
    change [(source, now)].foldl older (rest.foldl older (some first)) = _
    rw [hfound]
    exact if_neg (not_lt.mpr (hpast found hmem))
  refine ⟨found, hmem, congrArg (Option.map Prod.fst) hfold, ?_⟩
  obtain ⟨hfirst, hrest⟩ := foldl_older_le hfound
  exact List.forall_mem_cons.mpr ⟨hfirst first rfl, hrest⟩

/-- A failure is written down, in place of the oldest one where there are too many. -/
theorem recorded_cases (hspread : 1 ≤ guard.spread)
    (hsize : (guard.failingSources identity now).1.size ≤ 4 * guard.spread)
    (hpast : ∀ item ∈ (guard.failingSources identity now).1.items, item.2 ≤ now) :
    (guard.recorded identity source now = (guard.failingSources identity now).1.set source now ∧
        (guard.recorded identity source now).size ≤ 4 * guard.spread) ∨
      ∃ oldest ∈ (guard.failingSources identity now).1.items,
        (guard.failingSources identity now).1.get? source = none ∧
        (guard.failingSources identity now).1.size = 4 * guard.spread ∧
        (∀ item ∈ (guard.failingSources identity now).1.items, oldest.2 ≤ item.2) ∧
        guard.recorded identity source now =
          ((guard.failingSources identity now).1.set source now).erase oldest.1 := by
  unfold recorded
  generalize (guard.failingSources identity now).1 = fresh at hsize hpast ⊢
  dsimp only
  by_cases hmany : guard.spread * 4 < (fresh.set source now).size
  · have hnew : fresh.get? source = none := by
      cases hget : fresh.get? source with
      | none => rfl
      | some last =>
          rw [Dict.size_set, if_pos (by rw [Dict.contains, hget]; rfl)] at hmany
          omega
    have hcount : fresh.size = 4 * guard.spread := by
      rw [Dict.size_set, if_neg (by rw [Dict.contains, hnew]; exact Bool.false_ne_true)] at hmany
      omega
    have hne : fresh.items ≠ [] := by
      intro hempty
      rw [Dict.size, hempty, List.length_nil] at hcount
      omega
    obtain ⟨oldest, hmem, holdest, hle⟩ :=
      oldestSource_concat (Dict.items_set_of_get?_none hnew now) hne hpast
    refine .inr ⟨oldest, hmem, hnew, hcount, hle, ?_⟩
    rw [if_pos hmany, holdest, Option.map_some, Option.getD_some]
  · rw [if_neg hmany]
    exact .inl ⟨rfl, by omega⟩

/-- Where the oldest makes room, as many are kept as before. -/
theorem size_set_erase {sources : Dict String ℚ} {oldest : String × ℚ} (hmem : oldest ∈ sources.items)
    (hnew : sources.get? source = none) :
    ((sources.set source now).erase oldest.1).size = sources.size := by
  have hthere : (sources.set source now).contains oldest.1 = true := by
    rw [Dict.contains, Dict.get?_set]
    split
    · rfl
    · rw [Dict.get?_eq_some_iff.mpr hmem]
      rfl
  have hless := Dict.size_erase hthere
  rw [Dict.size_set, if_neg (by rw [Dict.contains, hnew]; exact Bool.false_ne_true)] at hless
  exact Nat.succ_injective hless

theorem size_recorded_le (hspread : 1 ≤ guard.spread)
    (hsize : (guard.failingSources identity now).1.size ≤ 4 * guard.spread)
    (hpast : ∀ item ∈ (guard.failingSources identity now).1.items, item.2 ≤ now) :
    (guard.recorded identity source now).size ≤ 4 * guard.spread := by
  rcases @recorded_cases guard identity source now hspread hsize hpast with
    ⟨-, hle⟩ | ⟨oldest, hmem, hnew, hcount, -, heq⟩
  · exact hle
  · rw [heq, size_set_erase hmem hnew, hcount]

/-- The failure that was just written down is not the oldest. -/
theorem get?_recorded (hspread : 1 ≤ guard.spread)
    (hsize : (guard.failingSources identity now).1.size ≤ 4 * guard.spread)
    (hpast : ∀ item ∈ (guard.failingSources identity now).1.items, item.2 ≤ now) :
    (guard.recorded identity source now).get? source = some now := by
  rcases @recorded_cases guard identity source now hspread hsize hpast with
    ⟨heq, -⟩ | ⟨oldest, hmem, hnew, -, -, heq⟩
  · rw [heq, Dict.get?_set, if_pos rfl]
  · have hother : source ≠ oldest.1 := fun hsame =>
      Dict.not_mem_of_get?_none hnew oldest hmem hsame.symm
    rw [heq, Dict.get?_erase, if_neg hother, Dict.get?_set, if_pos rfl]

/-- What is written down is the failure or was there before. -/
theorem mem_recorded {item : String × ℚ} (h : item ∈ (guard.recorded identity source now).items) :
    item = (source, now) ∨ item ∈ (guard.failingSources identity now).1.items := by
  have hset : item ∈ ((guard.failingSources identity now).1.set source now).items := by
    unfold recorded at h
    dsimp only at h
    split at h
    · cases hoption : oldestSource ((guard.failingSources identity now).1.set source now) with
      | none => rwa [hoption] at h
      | some oldest =>
          rw [hoption] at h
          exact List.mem_of_mem_filter h
    · exact h
  obtain ⟨key, time⟩ := item
  rw [Dict.mem_items_set] at hset
  split at hset
  · next hkey => exact .inl (by rw [hkey, hset])
  · exact .inr hset

/-! ### The bounds -/

/-- The three maps hold no more than `maxKeys` entries, and no identity more than `4 * spread` sources. -/
structure Bounded (guard : GuessGuard) : Prop where
  pair : guard.pair.state.size ≤ guard.maxKeys
  identity : guard.identity.state.size ≤ guard.maxKeys
  sources : guard.sources.size ≤ guard.maxKeys
  each : ∀ identity sources, guard.sources.get? identity = some sources →
    sources.size ≤ 4 * guard.spread

/-- What every call keeps: the bounds, the settings, and times no later than the last call. -/
structure Kept (guard : GuessGuard) (latest : ℚ) : Prop extends Bounded guard where
  spread_pos : 1 ≤ guard.spread
  maxKeys_pos : 1 ≤ guard.maxKeys
  pairKeys : guard.pair.maxKeys = guard.maxKeys
  identityKeys : guard.identity.maxKeys = guard.maxKeys
  past : ∀ identity, ∀ item ∈ (guard.tracked identity).items, item.2 ≤ latest

end GuessGuard

namespace ProgressiveDelay

variable {throttle : ProgressiveDelay}

theorem size_failure_le (key : String) (now : ℚ) (hmax : 1 ≤ throttle.maxKeys)
    (h : throttle.state.size ≤ throttle.maxKeys) :
    (throttle.failure key now).2.state.size ≤ throttle.maxKeys := by
  have hsame := current_same throttle key now
  have hcurrent := (size_current_le throttle key now).trans h
  unfold failure
  generalize throttle.current key now = found at hsame hcurrent ⊢
  obtain ⟨found, after⟩ := found
  dsimp only at hsame hcurrent ⊢
  split
  · exact hcurrent
  · dsimp only
    rw [Dict.size_moveToEnd, Dict.size_set, hsame.maxKeys]
    by_cases hmany : !after.state.contains key && decide (throttle.maxKeys ≤ after.state.size)
    · rw [if_pos hmany]
      have hpop := Dict.size_popFirst after.state
      split <;> omega
    · rw [if_neg hmany]
      split
      · exact hcurrent
      · next hnew =>
          rw [Bool.not_eq_true] at hnew
          rw [hnew, Bool.not_false, Bool.true_and, decide_eq_true_eq] at hmany
          omega

end ProgressiveDelay

namespace GuessGuard

variable {guard : GuessGuard} {identity source : String} {now latest : ℚ}

theorem Kept.later (h : guard.Kept latest) (hnow : latest ≤ now) : guard.Kept now where
  toBounded := h.toBounded
  spread_pos := h.spread_pos
  maxKeys_pos := h.maxKeys_pos
  pairKeys := h.pairKeys
  identityKeys := h.identityKeys
  past := fun identity item hitem => (h.past identity item hitem).trans hnow

theorem Kept.size_tracked_le (h : guard.Kept latest) (identity : String) :
    (guard.tracked identity).size ≤ 4 * guard.spread := by
  unfold tracked
  cases hget : guard.sources.get? identity with
  | none => exact Nat.zero_le _
  | some sources => exact h.each identity sources hget

theorem Kept.size_failing_le (h : guard.Kept latest) (identity : String) (now : ℚ) :
    (guard.failingSources identity now).1.size ≤ 4 * guard.spread := by
  rw [Dict.size, items_failing]
  exact (List.length_filter_le _ _).trans (h.size_tracked_le identity)

theorem Kept.past_failing (h : guard.Kept latest) (identity : String) (now : ℚ) :
    ∀ item ∈ (guard.failingSources identity now).1.items, item.2 ≤ latest := by
  intro item hitem
  rw [items_failing] at hitem
  exact h.past identity item (List.mem_of_mem_filter hitem)

/-- The sources of one identity are replaced. -/
theorem Kept.set_sources {all : Dict String (Dict String ℚ)} (h : guard.Kept latest)
    (hsize : all.size ≤ guard.maxKeys)
    (hget : ∀ other sources, all.get? other = some sources →
      guard.sources.get? other = some sources ∨
        sources.size ≤ 4 * guard.spread ∧ ∀ item ∈ sources.items, item.2 ≤ latest) :
    { guard with sources := all }.Kept latest where
  pair := h.pair
  identity := h.identity
  sources := hsize
  each := fun other sources hsources => by
    rcases hget other sources hsources with hold | ⟨hle, -⟩
    · exact h.each other sources hold
    · exact hle
  spread_pos := h.spread_pos
  maxKeys_pos := h.maxKeys_pos
  pairKeys := h.pairKeys
  identityKeys := h.identityKeys
  past := fun other item hitem => by
    unfold tracked at hitem
    cases hsources : all.get? other with
    | none =>
        rw [hsources] at hitem
        cases hitem
    | some sources =>
        rw [hsources, Option.getD_some] at hitem
        rcases hget other sources hsources with hold | ⟨-, hle⟩
        · refine h.past other item ?_
          rwa [tracked, hold, Option.getD_some]
        · exact hle item hitem

theorem Kept.failingSources (h : guard.Kept latest) (identity : String) (now : ℚ) :
    (guard.failingSources identity now).2.Kept latest := by
  rw [failingSources_eq]
  refine h.set_sources ?_ fun other sources hsources => ?_
  · rw [size_sources_failing]
    exact h.sources
  · rw [get?_sources_failing] at hsources
    split at hsources
    · obtain ⟨old, -, rfl⟩ := Option.map_eq_some_iff.mp hsources
      exact .inr ⟨h.size_failing_le identity now, h.past_failing identity now⟩
    · exact .inl hsources

theorem Kept.set_pair {pair : ProgressiveDelay} (h : guard.Kept latest)
    (hsize : pair.state.size ≤ guard.maxKeys) (hkeys : pair.maxKeys = guard.maxKeys) :
    { guard with pair }.Kept latest :=
  { h with pair := hsize, pairKeys := hkeys, past := h.past }

theorem Kept.set_identity {identity : ProgressiveDelay} (h : guard.Kept latest)
    (hsize : identity.state.size ≤ guard.maxKeys) (hkeys : identity.maxKeys = guard.maxKeys) :
    { guard with identity }.Kept latest :=
  { h with identity := hsize, identityKeys := hkeys, past := h.past }

/-- There is room for the sources of the identity. -/
theorem Kept.size_room (h : guard.Kept latest) (sources : Dict String ℚ) :
    ((guard.room identity now).set identity sources).size ≤ guard.maxKeys := by
  have hall := size_sources_failing guard identity now
  have hbound := h.sources
  have hpos := h.maxKeys_pos
  have hpop := Dict.size_popFirst (guard.failingSources identity now).2.sources
  rw [Dict.size_set, room]
  by_cases hmany : !(guard.failingSources identity now).2.sources.contains identity &&
      decide (guard.maxKeys ≤ (guard.failingSources identity now).2.sources.size)
  · rw [if_pos hmany]
    split <;> omega
  · rw [if_neg hmany]
    split
    · omega
    · next hnew =>
        rw [Bool.not_eq_true] at hnew
        rw [hnew, Bool.not_false, Bool.true_and, decide_eq_true_eq] at hmany
        omega

theorem get?_of_get?_room {other : String} {sources : Dict String ℚ} (hother : other ≠ identity)
    (h : (guard.room identity now).get? other = some sources) :
    guard.sources.get? other = some sources := by
  have hall : (guard.failingSources identity now).2.sources.get? other = some sources := by
    unfold room at h
    dsimp only at h
    split at h
    · exact Dict.get?_of_get?_popFirst h
    · exact h
  rwa [get?_sources_failing, if_neg hother] at hall

theorem Kept.failure (h : guard.Kept now) : (guard.failure identity source now).2.Kept now := by
  have hpair := ProgressiveDelay.size_failure_le (pairKey identity source) now
    (h.pairKeys ▸ h.maxKeys_pos) (h.pairKeys ▸ h.pair)
  have hpairKeys := (ProgressiveDelay.failure_same guard.pair (pairKey identity source) now).maxKeys
  have hset := h.set_pair (h.pairKeys ▸ hpair) (hpairKeys.trans h.pairKeys)
  cases hresult : (guard.pair.failure (pairKey identity source) now).1 with
  | error error =>
      rw [failure_of_error hresult]
      exact hset
  | ok =>
      rw [failure_of_ok hresult]
      have hslowed : (guard.slowed identity source now).state.size ≤ guard.maxKeys ∧
          (guard.slowed identity source now).maxKeys = guard.maxKeys := by
        unfold slowed
        split
        · have hsize := ProgressiveDelay.size_failure_le identity now
            (h.identityKeys ▸ h.maxKeys_pos) (h.identityKeys ▸ h.identity)
          have hkeys := (ProgressiveDelay.failure_same guard.identity identity now).maxKeys
          exact ⟨h.identityKeys ▸ hsize, hkeys.trans h.identityKeys⟩
        · exact ⟨h.identity, h.identityKeys⟩
      refine (hset.set_identity hslowed.1 hslowed.2).set_sources ?_ fun other sources hsources => ?_
      · rw [Dict.size_moveToEnd]
        exact h.size_room _
      · rw [Dict.get?_moveToEnd, Dict.get?_set] at hsources
        split at hsources
        · obtain rfl := Option.some_inj.mp hsources
          have hfailing := h.past_failing identity now
          refine .inr ⟨size_recorded_le h.spread_pos (h.size_failing_le identity now) hfailing, ?_⟩
          intro item hitem
          rcases mem_recorded hitem with rfl | hold
          · exact le_rfl
          · exact hfailing item hold
        · next hother =>
            have hold : guard.sources.get? other = some sources := get?_of_get?_room hother hsources
            exact .inl hold

theorem Kept.delayFor (h : guard.Kept now) : (guard.delayFor identity source now).2.Kept now := by
  have hkeep (throttle : ProgressiveDelay) (key : String) (hkeys : throttle.maxKeys = guard.maxKeys)
      (hsize : throttle.state.size ≤ guard.maxKeys) :
      (throttle.delayFor key now).2.state.size ≤ guard.maxKeys ∧
        (throttle.delayFor key now).2.maxKeys = guard.maxKeys :=
    ⟨(ProgressiveDelay.size_current_le throttle key now).trans hsize,
      (ProgressiveDelay.current_same throttle key now).maxKeys.trans hkeys⟩
  obtain ⟨hpair, hpairKeys⟩ := hkeep guard.pair (pairKey identity source) h.pairKeys h.pair
  have hdropped := (h.set_pair hpair hpairKeys).failingSources identity now
  unfold GuessGuard.delayFor
  dsimp only
  split
  · obtain ⟨hidentity, hidentityKeys⟩ := hkeep guard.identity identity h.identityKeys h.identity
    rw [failingSources_eq] at hdropped ⊢
    exact hdropped.set_identity hidentity hidentityKeys
  · exact hdropped

/-- One call keeps the bounds. -/
theorem kept_call (h : guard.Kept latest) (hnow : latest ≤ now) (call : Call) :
    (guard.call now call).Kept now := by
  cases call with
  | failure identity source => exact (h.later hnow).failure
  | success identity source =>
      have hsize := Dict.size_erase_le guard.pair.state (pairKey identity source)
      exact (h.later hnow).set_pair (hsize.trans h.pair) h.pairKeys
  | delayFor identity source => exact (h.later hnow).delayFor

theorem kept_new (freeAttempts : Nat) (cap : ℚ) {spread : Nat} (window : ℚ) {maxKeys : Nat}
    (hspread : 1 ≤ spread) (hmax : 1 ≤ maxKeys) (latest : ℚ) :
    (GuessGuard.new freeAttempts cap spread window maxKeys).Kept latest where
  pair := Nat.zero_le _
  identity := Nat.zero_le _
  sources := Nat.zero_le _
  each := nofun
  spread_pos := hspread
  maxKeys_pos := hmax
  pairKeys := rfl
  identityKeys := rfl
  past := nofun

/-- Every call of a run in order keeps the bounds. -/
theorem kept_after {start : GuessGuard} {calls : List (ℚ × Call)} (h : ∀ latest, start.Kept latest)
    (hsorted : (calls.map (·.1)).Pairwise (· ≤ ·)) (hlatest : ∀ call ∈ calls, call.1 ≤ latest) :
    (start.after calls).Kept latest := by
  induction calls using List.reverseRecOn generalizing latest with
  | nil => exact h latest
  | append_singleton before call ih =>
      rw [after_concat]
      have hbefore := ih (sorted_before hsorted) (times_le_of_sorted hsorted)
      exact (kept_call hbefore le_rfl call.2).later (hlatest call (by simp))

/-! ### Sources that failed -/

/-- The source is among those of its identity, with this time. -/
def Records (guard : GuessGuard) (now : ℚ) (identity source : String) : Prop :=
  (guard.tracked identity).get? source = some now

/-- The wait after one more failure of the identity from the source fits in a float. -/
def WaitFits (guard : GuessGuard) (now : ℚ) (identity source : String) : Prop :=
  (guard.pair.current (pairKey identity source) now).1.failures < guard.pair.free + 1024

end GuessGuard

theorem ProgressiveDelay.failure_fst (throttle : ProgressiveDelay) (key : String) (now : ℚ) :
    (throttle.failure key now).1 =
      (throttle.wait ((throttle.current key now).1.failures + 1)).map fun _ => () := by
  have hsame := current_same throttle key now
  have hwait : throttle.wait ((throttle.current key now).1.failures + 1) =
      (throttle.current key now).2.wait ((throttle.current key now).1.failures + 1) := by
    simp only [wait, hsame.free, hsame.cap, hsame.base]
  rw [hwait, failure]
  dsimp only
  cases (throttle.current key now).2.wait ((throttle.current key now).1.failures + 1) <;> rfl

namespace GuessGuard

variable {guard : GuessGuard} {identity source : String} {now : ℚ}

/-- A failure is counted if its wait fits. -/
theorem failure_pair_ok_iff : (guard.pair.failure (pairKey identity source) now).1 = .ok () ↔
    guard.WaitFits now identity source := by
  rw [ProgressiveDelay.failure_fst, WaitFits, ← Nat.succ_le_iff, Nat.succ_eq_add_one,
    ← ProgressiveDelay.wait_eq_ok_iff]
  cases guard.pair.wait ((guard.pair.current (pairKey identity source) now).1.failures + 1) with
  | ok wait => exact iff_of_true rfl ⟨wait, rfl⟩
  | error error => exact iff_of_false nofun nofun

theorem records_failure_iff (h : guard.Kept now) :
    (guard.failure identity source now).2.Records now identity source ↔
      guard.WaitFits now identity source ∨ guard.Records now identity source := by
  by_cases hfits : guard.WaitFits now identity source
  · refine iff_of_true ?_ (.inl hfits)
    rw [failure_of_ok (failure_pair_ok_iff.mpr hfits), Records, tracked]
    dsimp only
    rw [Dict.get?_moveToEnd, Dict.get?_set, if_pos rfl, Option.getD_some]
    exact get?_recorded h.spread_pos (h.size_failing_le identity now) (h.past_failing identity now)
  · rw [or_iff_right hfits]
    cases hresult : (guard.pair.failure (pairKey identity source) now).1 with
    | ok => exact absurd (failure_pair_ok_iff.mp hresult) hfits
    | error error => rw [failure_of_error hresult]; rfl

/-- In a run the maps are bounded, and every source that fails is recorded. -/
structure MemoryBounded (start : GuessGuard) (calls : List (ℚ × Call)) : Prop where
  bounded : ∀ before rest, calls = before ++ rest → (start.after before).Bounded
  records : ∀ before now identity source rest,
    calls = before ++ (now, .failure identity source) :: rest →
      (start.after (before ++ [(now, .failure identity source)])).Records now identity source

/-- At every failure of a run the wait fits, or the source has failed at that very time already. -/
def WaitsFit (start : GuessGuard) (calls : List (ℚ × Call)) : Prop :=
  ∀ before now identity source rest, calls = before ++ (now, .failure identity source) :: rest →
    (start.after before).WaitFits now identity source ∨
      (start.after before).Records now identity source

section

variable {start : GuessGuard} {calls : List (ℚ × Call)}

theorem kept_before {before rest : List (ℚ × Call)} {call : ℚ × Call}
    (h : ∀ latest, start.Kept latest)
    (hsorted : ((before ++ call :: rest).map (·.1)).Pairwise (· ≤ ·)) :
    (start.after before).Kept call.1 :=
  kept_after h (sorted_before hsorted) (times_le_of_sorted hsorted)

theorem bounded_of_kept (h : ∀ latest, start.Kept latest)
    (hsorted : (calls.map (·.1)).Pairwise (· ≤ ·)) {before rest : List (ℚ × Call)}
    (hsplit : calls = before ++ rest) : (start.after before).Bounded := by
  subst hsplit
  rcases List.eq_nil_or_concat before with rfl | ⟨earlier, call, rfl⟩
  · exact (h 0).toBounded
  · rw [List.concat_eq_append] at hsorted ⊢
    rw [List.append_assoc] at hsorted
    rw [after_concat]
    exact (kept_call (kept_before h hsorted) le_rfl call.2).toBounded

/-- In every run in order the maps are bounded; the sources that fail are all recorded if and only if
every wait fits. -/
theorem memory_bounded_iff {freeAttempts spread maxKeys : Nat} {cap window : ℚ}
    (hspread : 1 ≤ spread) (hmax : 1 ≤ maxKeys) (hsorted : (calls.map (·.1)).Pairwise (· ≤ ·)) :
    let start := GuessGuard.new freeAttempts cap spread window maxKeys
    (∀ before rest, calls = before ++ rest → (start.after before).Bounded) ∧
      (MemoryBounded start calls ↔ WaitsFit start calls) := by
  intro start
  have hkept := kept_new freeAttempts cap window hspread hmax
  have hbounded (before rest : List (ℚ × Call)) (hsplit : calls = before ++ rest) :=
    bounded_of_kept hkept hsorted hsplit
  have hstep (before : List (ℚ × Call)) (now : ℚ) (identity source : String)
      (rest : List (ℚ × Call)) (hsplit : calls = before ++ (now, .failure identity source) :: rest) :
      (start.after (before ++ [(now, .failure identity source)])).Records now identity source ↔
        (start.after before).WaitFits now identity source ∨
          (start.after before).Records now identity source := by
    rw [after_concat]
    exact records_failure_iff (kept_before hkept (hsplit ▸ hsorted))
  refine ⟨hbounded, fun h => ?_, fun h => ⟨hbounded, ?_⟩⟩
  · intro before now identity source rest hsplit
    exact (hstep before now identity source rest hsplit).mp
      (h.records before now identity source rest hsplit)
  · intro before now identity source rest hsplit
    exact (hstep before now identity source rest hsplit).mpr
      (h before now identity source rest hsplit)

/-- Alice fails from more sources than are kept of her, and more identities than there is room for fail
after her. -/
def crowdedCalls : List (ℚ × Call) :=
  [(0, .failure "alice" "10.0.0.1"), (1, .failure "alice" "10.0.0.2"), (2, .failure "alice" "10.0.0.3"),
    (3, .failure "alice" "10.0.0.4"), (4, .failure "alice" "10.0.0.5"), (5, .success "alice" "10.0.0.5"),
    (6, .failure "bob" "10.0.0.1"), (7, .delayFor "bob" "10.0.0.2"), (8, .failure "carol" "10.0.0.1"),
    (9, .failure "dave" "10.0.0.1")]

theorem memory_bounded_iff_crowded :
    let start := GuessGuard.new 5 30 1 900 2
    ((∀ before rest, crowdedCalls = before ++ rest → (start.after before).Bounded) ∧
      (MemoryBounded start crowdedCalls ↔ WaitsFit start crowdedCalls)) ∧
      ((start.after (crowdedCalls.take 5)).tracked "alice").size = 4 ∧
      (start.after crowdedCalls).sources.size = 2 ∧ (start.after crowdedCalls).pair.state.size = 2 :=
  ⟨memory_bounded_iff (by decide) (by decide) (by decide +kernel), by decide +kernel, by decide +kernel,
    by decide +kernel⟩

end

/-! ### A source that keeps failing -/

/-- The throttle of the pairs gets the calls of the guard. -/
theorem pair_call (guard : GuessGuard) (now : ℚ) (call : Call) :
    (guard.call now call).pair = (guard.pair.call now call.ofPair).2 := by
  cases call with
  | failure identity source =>
      change (guard.failure identity source now).2.pair = _
      cases hresult : (guard.pair.failure (pairKey identity source) now).1 with
      | ok => rw [failure_of_ok hresult]; rfl
      | error error => rw [failure_of_error hresult]; rfl
  | success identity source => rfl
  | delayFor identity source =>
      change (guard.delayFor identity source now).2.pair = _
      unfold delayFor
      dsimp only
      rw [failingSources_eq]
      split <;> rfl

theorem pair_after (guard : GuessGuard) (calls : List (ℚ × Call)) :
    (guard.after calls).pair = guard.pair.after (calls.map fun call => (call.1, call.2.ofPair)) := by
  induction calls using List.reverseRecOn with
  | nil => rfl
  | append_singleton before call ih =>
      rw [after_concat, pair_call, ih, List.map_append, List.map_singleton,
        Naco.after_concat]

/-- Failures of one pair, a second apart. -/
def retries (identity source : String) (count : Nat) : List (ℚ × Call) :=
  (List.range count).map fun second : Nat => ((second : ℚ), .failure identity source)

theorem retries_succ (identity source : String) (count : Nat) :
    retries identity source (count + 1) =
      retries identity source count ++ [((count : ℚ), .failure identity source)] := by
  rw [retries, List.range_succ, List.map_append]
  rfl

theorem sorted_retries (identity source : String) (count : Nat) :
    ((retries identity source count).map (·.1)).Pairwise (· ≤ ·) := by
  rw [retries, List.map_map, List.pairwise_map]
  refine List.pairwise_lt_range.imp fun hless => ?_
  exact Nat.cast_le.mpr hless.le

theorem streakOf_retries (identity source : String) (count : Nat) :
    streakOf 900 (pairKey identity source)
        ((retries identity source (count + 1)).map fun call => (call.1, call.2.ofPair)) =
      some (count + 1, (count : ℚ)) := by
  induction count with
  | zero => simp [retries, streakOf, nextStreak, recentFailures, Call.ofPair]
  | succ count ih =>
      have hsecond : ((count + 1 : Nat) : ℚ) - count ≤ 900 := by
        push_cast
        linarith
      rw [retries_succ, List.map_append, List.map_singleton, streakOf_concat, ih]
      simp only [nextStreak, Call.ofPair, if_true, recentFailures, if_pos hsecond]

theorem time_retries {identity source : String} {count : Nat} :
    ∀ call ∈ retries identity source (count + 1), call.1 ≤ (count : ℚ) := by
  intro call hcall
  obtain ⟨second, hsecond, rfl⟩ := List.mem_map.mp hcall
  exact Nat.cast_le.mpr (Nat.le_of_lt_succ (List.mem_range.mp hsecond))

/-- As long as the waits fit, all failures of the pair are counted. -/
theorem failures_retries (identity source : String) {count : Nat} (hfew : count + 1 ≤ 1029) :
    ((GuessGuard.new.after (retries identity source (count + 1))).pair.current
      (pairKey identity source) ((count + 1 : Nat) : ℚ)).1.failures = count + 1 := by
  let pairCalls := (retries identity source (count + 1)).map fun call => (call.1, call.2.ofPair)
  have hlength : pairCalls.length = count + 1 := by
    rw [List.length_map, retries, List.length_map, List.length_range]
  have hsorted : (pairCalls.map (·.1)).Pairwise (· ≤ ·) := by
    rw [List.map_map]
    exact sorted_retries _ _ _
  have hroom : NoEvictions GuessGuard.new.pair pairCalls :=
    noEvictions_of_length_le rfl (by
      rw [hlength]
      exact hfew.trans (by decide))
  have hfit : CountsFit GuessGuard.new.pair pairCalls :=
    countsFit_of_length_le (by
      rw [hlength]
      exact hfew)
  have hlatest : ∀ call ∈ pairCalls, call.1 ≤ (count : ℚ) := by
    intro call hcall
    obtain ⟨earlier, hearlier, rfl⟩ := List.mem_map.mp hcall
    exact time_retries earlier hearlier
  obtain ⟨hsame, hstores⟩ := stores_after rfl hsorted hroom hfit
  have hnow : (count : ℚ) ≤ ((count + 1 : Nat) : ℚ) := Nat.cast_le.mpr (Nat.le_succ _)
  have hcount := ProgressiveDelay.current_failures (hstores _ hlatest (pairKey identity source)) hnow
  have hsecond : ((count + 1 : Nat) : ℚ) - count ≤ 900 := by
    push_cast
    linarith
  rw [pair_after]
  refine hcount.trans ?_
  rw [hsame.forget]
  change recentFailures 900 _ (streakOf 900 _ _) = _
  rw [streakOf_retries]
  exact if_pos hsecond

/-- The first failure whose wait does not fit is not recorded. -/
theorem not_records_retries (identity source : String) {count : Nat} (hcount : count + 1 = 1029) :
    ¬ (GuessGuard.new.after (retries identity source (count + 2))).Records ((count + 1 : Nat) : ℚ)
      identity source := by
  have hkept := kept_new 5 30 900 (by decide : 1 ≤ 10) (by decide : 1 ≤ 50000)
  have hlast := kept_after hkept (sorted_retries identity source (count + 1)) time_retries
  have hnow : (count : ℚ) < ((count + 1 : Nat) : ℚ) := Nat.cast_lt.mpr (Nat.lt_succ_self _)
  have hfree : (GuessGuard.new.after (retries identity source (count + 1))).pair.free = 5 := by
    rw [pair_after]
    exact (ProgressiveDelay.after_same _ _).free
  intro hnew
  rw [retries_succ, after_concat] at hnew
  rcases (records_failure_iff (hlast.later hnow.le)).mp hnew with hfits | hrecords
  · rw [WaitFits, failures_retries _ _ hcount.le, hfree] at hfits
    omega
  · -- no source has failed at this time
    have hpast := hlast.past identity _ (Dict.get?_eq_some_iff.mp hrecords)
    exact absurd hpast (not_le.mpr hnow)

/-- A source that fails every second: failure number 1030 is not recorded. -/
theorem memory_retries_overflow :
    let calls := retries "alice" "10.0.0.1" 1030
    (calls.map (·.1)).Pairwise (· ≤ ·) ∧ ¬ MemoryBounded .new calls := by
  refine ⟨sorted_retries _ _ _, fun h => ?_⟩
  have hnew := h.records _ _ _ _ [] (retries_succ "alice" "10.0.0.1" 1029)
  rw [← retries_succ] at hnew
  exact not_records_retries "alice" "10.0.0.1" rfl hnew

end GuessGuard

end Naco
