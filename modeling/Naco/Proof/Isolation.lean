import Naco.Proof.GuessMemory
import Mathlib.Data.Finset.Card

/-!
# Guesses from one source and from many

What the guard says of an identity and a source depends on the failures of this identity only: how often
this source failed in a row, and whether failures came from many sources. The sources that are kept are
those that failed within the window, or as many of the latest as there is room for, and these are many.
-/

namespace Naco

open Py

namespace GuessGuard

/-! ### What the calls say -/

def Call.identity : Call → String
  | .failure identity _ | .success identity _ | .delayFor identity _ => identity

def Call.source : Call → String
  | .failure _ source | .success _ source | .delayFor _ source => source

/-- The failures of an identity from a source in a row, and the time of the last: each within the window
after the one before, and no success between them. -/
def nextFailures (window : ℚ) (identity source : String) (streak : Option (Nat × ℚ)) :
    ℚ × Call → Option (Nat × ℚ)
  | (now, .failure identity' source') =>
      if identity' = identity ∧ source' = source then
        some (recentFailures window now streak + 1, now)
      else streak
  | (_, .success identity' source') =>
      if identity' = identity ∧ source' = source then none else streak
  | (_, .delayFor _ _) => streak

def failuresOf (window : ℚ) (identity source : String) (calls : List (ℚ × Call)) :
    Option (Nat × ℚ) :=
  calls.foldl (nextFailures window identity source) none

/-- The source of a call that is a failure of the identity within the window before `now`. -/
def failedWithin (window : ℚ) (identity : String) (now : ℚ) : ℚ × Call → Option String
  | (time, .failure identity' source) =>
      if identity' = identity ∧ now - time ≤ window then some source else none
  | (_, .success _ _) | (_, .delayFor _ _) => none

/-- The distinct sources of an identity that failed within the window before `now`. -/
def failingWithin (window : ℚ) (identity : String) (now : ℚ) (calls : List (ℚ × Call)) :
    Finset String :=
  (calls.filterMap (failedWithin window identity now)).toFinset

/-- A call that comes when an identity fails from many sources slows down the identity. -/
def identityCall (spread : Nat) (window : ℚ) (before : List (ℚ × Call)) :
    ℚ × Call → List (ℚ × DelayCall)
  | (now, .failure identity source) =>
      let calls := before ++ [(now, .failure identity source)]
      if spread ≤ (failingWithin window identity now calls).card then [(now, .failure identity)] else []
  | (_, .success _ _) => []
  | (now, .delayFor identity _) =>
      if spread ≤ (failingWithin window identity now before).card then [(now, .delayFor identity)]
      else []

def identityCallsFrom (spread : Nat) (window : ℚ) :
    List (ℚ × Call) → List (ℚ × Call) → List (ℚ × DelayCall)
  | _, [] => []
  | before, call :: rest =>
      identityCall spread window before call ++
        identityCallsFrom spread window (before ++ [call]) rest

/-- The calls that the throttle of identities gets. -/
def identityCalls (spread : Nat) (window : ℚ) (calls : List (ℚ × Call)) : List (ℚ × DelayCall) :=
  identityCallsFrom spread window [] calls

/-- The calls that the throttle of identities with their sources gets. -/
def pairCalls (calls : List (ℚ × Call)) : List (ℚ × DelayCall) :=
  calls.map fun call => (call.1, call.2.ofPair)

theorem failuresOf_concat (window : ℚ) (identity source : String) (calls : List (ℚ × Call))
    (call : ℚ × Call) : failuresOf window identity source (calls ++ [call]) =
      nextFailures window identity source (failuresOf window identity source calls) call :=
  List.foldl_append

theorem identityCallsFrom_append (spread : Nat) (window : ℚ) (before calls rest : List (ℚ × Call)) :
    identityCallsFrom spread window before (calls ++ rest) =
      identityCallsFrom spread window before calls ++
        identityCallsFrom spread window (before ++ calls) rest := by
  induction calls generalizing before with
  | nil => rw [List.nil_append, List.append_nil, identityCallsFrom, List.nil_append]
  | cons first calls ih =>
      rw [List.cons_append, identityCallsFrom, ih, identityCallsFrom, List.append_assoc,
        List.append_assoc, List.singleton_append]

theorem identityCalls_concat (spread : Nat) (window : ℚ) (calls : List (ℚ × Call)) (call : ℚ × Call) :
    identityCalls spread window (calls ++ [call]) =
      identityCalls spread window calls ++ identityCall spread window calls call := by
  rw [identityCalls, identityCallsFrom_append, identityCallsFrom, identityCallsFrom, List.append_nil]
  rfl

theorem mem_failingWithin {window now : ℚ} {identity source : String} {calls : List (ℚ × Call)} :
    source ∈ failingWithin window identity now calls ↔
      ∃ time, (time, .failure identity source) ∈ calls ∧ now - time ≤ window := by
  rw [failingWithin, List.mem_toFinset, List.mem_filterMap]
  constructor
  · rintro ⟨⟨time, call⟩, hcall, hfailed⟩
    cases call with
    | failure identity' source' =>
        rw [failedWithin] at hfailed
        split at hfailed
        · next hwithin =>
            obtain rfl := hwithin.1
            obtain rfl := Option.some_inj.mp hfailed
            exact ⟨time, hcall, hwithin.2⟩
        · cases hfailed
    | success identity' source' => cases hfailed
    | delayFor identity' source' => cases hfailed
  · rintro ⟨time, hcall, hwithin⟩
    exact ⟨_, hcall, if_pos ⟨rfl, hwithin⟩⟩

/-! ### Keys -/

theorem eq_of_last_nul {left left' right right' : List Char} (h : '\x00' ∉ right) (h' : '\x00' ∉ right')
    (heq : left ++ '\x00' :: right = left' ++ '\x00' :: right') : left = left' ∧ right = right' := by
  have hrest {rest right : List Char} {more : List Char} (hright : '\x00' ∉ right)
      (hsplit : '\x00' :: right = rest ++ '\x00' :: more) : rest = [] := by
    cases rest with
    | nil => rfl
    | cons head rest =>
        obtain ⟨-, htail⟩ := List.cons.inj hsplit
        exact absurd (htail ▸ List.mem_append_right rest List.mem_cons_self) hright
  rcases List.append_eq_append_iff.mp heq with ⟨rest, rfl, hsplit⟩ | ⟨rest, rfl, hsplit⟩
  · obtain rfl := hrest h hsplit
    exact ⟨(List.append_nil left).symm, (List.cons.inj hsplit).2⟩
  · obtain rfl := hrest h' hsplit
    exact ⟨List.append_nil left', (List.cons.inj hsplit).2.symm⟩

/-- A key names its identity and its source, as the source has no NUL. -/
theorem pairKey_inj {identity identity' source source' : String} (h : '\x00' ∉ source.toList)
    (h' : '\x00' ∉ source'.toList) :
    pairKey identity source = pairKey identity' source' ↔ identity = identity' ∧ source = source' := by
  constructor
  · intro heq
    have hlist := congrArg String.toList heq
    simp only [pairKey, String.toList_append] at hlist
    have hnul : "\x00".toList = ['\x00'] := rfl
    rw [hnul, List.append_assoc, List.append_assoc, List.singleton_append, List.singleton_append] at hlist
    obtain ⟨hidentity, hsource⟩ := eq_of_last_nul h h' hlist
    exact ⟨String.toList_inj.mp hidentity, String.toList_inj.mp hsource⟩
  · rintro ⟨rfl, rfl⟩
    rfl

theorem streakOf_pairCalls {window : ℚ} {identity source : String} {calls : List (ℚ × Call)}
    (hsource : '\x00' ∉ source.toList) (hcalls : ∀ call ∈ calls, '\x00' ∉ call.2.source.toList) :
    streakOf window (pairKey identity source) (pairCalls calls) =
      failuresOf window identity source calls := by
  induction calls using List.reverseRecOn with
  | nil => rfl
  | append_singleton calls call ih =>
      rw [List.forall_mem_append, List.forall_mem_singleton] at hcalls
      obtain ⟨hcalls, hcall⟩ := hcalls
      rw [pairCalls, List.map_append, List.map_singleton, streakOf_concat, failuresOf_concat]
      change nextStreak _ _ (streakOf _ _ (pairCalls calls)) _ = _
      rw [ih hcalls]
      obtain ⟨now, call⟩ := call
      cases call with
      | failure identity' source' =>
          exact if_congr (pairKey_inj hcall hsource) rfl rfl
      | success identity' source' =>
          exact if_congr (pairKey_inj hcall hsource) rfl rfl
      | delayFor identity' source' => rfl

/-! ### The last failures -/

/-- When the identity failed last from the source. -/
def nextFailed (identity source : String) (last : Option ℚ) : ℚ × Call → Option ℚ
  | (now, .failure identity' source') =>
      if identity' = identity ∧ source' = source then some now else last
  | (_, .success _ _) | (_, .delayFor _ _) => last

def lastFailed (identity source : String) (calls : List (ℚ × Call)) : Option ℚ :=
  calls.foldl (nextFailed identity source) none

theorem lastFailed_concat (identity source : String) (calls : List (ℚ × Call)) (call : ℚ × Call) :
    lastFailed identity source (calls ++ [call]) =
      nextFailed identity source (lastFailed identity source calls) call :=
  List.foldl_append

theorem mem_of_lastFailed {identity source : String} {calls : List (ℚ × Call)} {last : ℚ}
    (h : lastFailed identity source calls = some last) : (last, .failure identity source) ∈ calls := by
  induction calls using List.reverseRecOn with
  | nil => cases h
  | append_singleton calls call ih =>
      rw [lastFailed_concat] at h
      rw [List.mem_append]
      obtain ⟨now, call⟩ := call
      cases call with
      | failure identity' source' =>
          rw [nextFailed] at h
          split at h
          · next hsame =>
              obtain ⟨rfl, rfl⟩ := hsame
              obtain rfl := Option.some_inj.mp h
              exact .inr List.mem_cons_self
          · exact .inl (ih h)
      | success identity' source' => exact .inl (ih h)
      | delayFor identity' source' => exact .inl (ih h)

/-- No failure is later than the last. -/
theorem exists_lastFailed {identity source : String} {calls : List (ℚ × Call)} {time : ℚ}
    (hsorted : (calls.map (·.1)).Pairwise (· ≤ ·)) (h : (time, .failure identity source) ∈ calls) :
    ∃ last, lastFailed identity source calls = some last ∧ time ≤ last := by
  induction calls using List.reverseRecOn with
  | nil => cases h
  | append_singleton calls call ih =>
      have hbefore (hmem : (time, .failure identity source) ∈ calls) :=
        ih (sorted_before hsorted) hmem
      have htime := times_le_of_sorted hsorted (time, .failure identity source)
      rw [lastFailed_concat]
      rw [List.mem_append, List.mem_singleton] at h
      obtain ⟨now, call⟩ := call
      cases call with
      | failure identity' source' =>
          rw [nextFailed]
          split
          · rcases h with hmem | heq
            · exact ⟨now, rfl, htime hmem⟩
            · exact ⟨now, rfl, (congrArg Prod.fst heq).le⟩
          · next hother =>
              rcases h with hmem | heq
              · exact hbefore hmem
              · have hsame := Call.failure.inj (congrArg Prod.snd heq)
                exact absurd ⟨hsame.1.symm, hsame.2.symm⟩ hother
      | success identity' source' => exact hbefore (h.resolve_right nofun)
      | delayFor identity' source' => exact hbefore (h.resolve_right nofun)

/-! ### The sources that are kept -/

/-- The sources that are kept of an identity, after calls until `latest`: each with its last failure, and
all but those whose last failure is long ago or made room for later ones. -/
structure Tracks (spread : Nat) (window : ℚ) (calls : List (ℚ × Call)) (latest : ℚ) (identity : String)
    (sources : Dict String ℚ) : Prop where
  size_le : sources.size ≤ 4 * spread
  sound : ∀ item ∈ sources.items, lastFailed identity item.1 calls = some item.2
  complete : ∀ source last, lastFailed identity source calls = some last →
    sources.get? source = some last ∨ window < latest - last ∨
      4 * spread ≤ sources.size ∧ ∀ item ∈ sources.items, last ≤ item.2

section

variable {spread : Nat} {window latest now : ℚ} {calls : List (ℚ × Call)} {identity source : String}
  {sources fresh : Dict String ℚ}

theorem Tracks.past (h : Tracks spread window calls latest identity sources)
    (hlatest : ∀ call ∈ calls, call.1 ≤ now) : ∀ item ∈ sources.items, item.2 ≤ now :=
  fun item hitem => hlatest _ (mem_of_lastFailed (h.sound item hitem))

theorem Tracks.later (h : Tracks spread window calls latest identity sources) (hnow : latest ≤ now) :
    Tracks spread window calls now identity sources where
  size_le := h.size_le
  sound := h.sound
  complete := fun source last hlast => by
    rcases h.complete source last hlast with hget | hlong | hfull
    · exact .inl hget
    · exact .inr (.inl (by linarith))
    · exact .inr (.inr hfull)

/-- Dropping the sources whose failure is long ago. -/
theorem Tracks.drop (h : Tracks spread window calls latest identity sources) (hnow : latest ≤ now)
    (hfresh : fresh.items = sources.items.filter fun item => decide (now - item.2 ≤ window)) :
    Tracks spread window calls now identity fresh where
  size_le := by
    rw [Dict.size, hfresh]
    exact (List.length_filter_le _ _).trans h.size_le
  sound := fun item hitem => h.sound item (List.mem_of_mem_filter (hfresh ▸ hitem))
  complete := fun source last hlast => by
    rcases h.complete source last hlast with hget | hlong | ⟨hfull, hle⟩
    · by_cases hrecent : now - last ≤ window
      · refine .inl (Dict.get?_eq_some_iff.mpr ?_)
        rw [hfresh, List.mem_filter]
        exact ⟨Dict.get?_eq_some_iff.mp hget, decide_eq_true hrecent⟩
      · exact .inr (.inl (not_le.mp hrecent))
    · exact .inr (.inl (by linarith))
    · by_cases hall : ∀ item ∈ sources.items, now - item.2 ≤ window
      · have hsame : fresh.items = sources.items :=
          hfresh.trans (List.filter_eq_self.mpr fun item hitem => decide_eq_true (hall item hitem))
        rw [Dict.size, hsame]
        exact .inr (.inr ⟨hfull, hle⟩)
      · -- what made room for the source is long ago itself
        simp only [not_forall, not_le] at hall
        obtain ⟨item, hitem, hlong⟩ := hall
        have hlater := hle item hitem
        exact .inr (.inl (by linarith))

/-- Many sources are kept if and only if many failed. -/
theorem Tracks.many_iff (h : Tracks spread window calls now identity sources) (hspread : 1 ≤ spread)
    (hsorted : (calls.map (·.1)).Pairwise (· ≤ ·))
    (hrecent : ∀ item ∈ sources.items, now - item.2 ≤ window) :
    spread ≤ sources.size ↔ spread ≤ (failingWithin window identity now calls).card := by
  have hsize : sources.size = (sources.items.map Prod.fst).toFinset.card := by
    rw [List.toFinset_card_of_nodup sources.nodup, List.length_map, Dict.size]
  have hkept : (sources.items.map Prod.fst).toFinset ⊆ failingWithin window identity now calls := by
    intro source hsource
    rw [List.mem_toFinset, List.mem_map] at hsource
    obtain ⟨item, hitem, rfl⟩ := hsource
    rw [mem_failingWithin]
    exact ⟨item.2, mem_of_lastFailed (h.sound item hitem), hrecent item hitem⟩
  have hle := Finset.card_le_card hkept
  rw [← hsize] at hle
  by_cases hfull : 4 * spread ≤ sources.size
  · exact iff_of_true (by omega) (by omega)
  · have hfailed : failingWithin window identity now calls ⊆ (sources.items.map Prod.fst).toFinset := by
      intro source hsource
      obtain ⟨time, hcall, hwithin⟩ := mem_failingWithin.mp hsource
      obtain ⟨last, hlast, htime⟩ := exists_lastFailed hsorted hcall
      rw [List.mem_toFinset, List.mem_map]
      rcases h.complete source last hlast with hget | hlong | ⟨hmany, -⟩
      · exact ⟨(source, last), Dict.get?_eq_some_iff.mp hget, rfl⟩
      · exact absurd hlong (by linarith)
      · exact absurd hmany hfull
    have hge := Finset.card_le_card hfailed
    rw [← hsize] at hge
    omega

/-- Calls that are no failures of the identity leave its sources as they are. -/
theorem Tracks.other {call : ℚ × Call} (h : Tracks spread window calls latest identity sources)
    (hcall : ∀ source, call.2 ≠ .failure identity source) :
    Tracks spread window (calls ++ [call]) latest identity sources := by
  have hlast (source : String) :
      lastFailed identity source (calls ++ [call]) = lastFailed identity source calls := by
    rw [lastFailed_concat]
    obtain ⟨now, call⟩ := call
    cases call with
    | failure identity' source' =>
        refine if_neg fun hsame => hcall source' ?_
        rw [hsame.1]
    | success identity' source' => rfl
    | delayFor identity' source' => rfl
  refine ⟨h.size_le, fun item hitem => ?_, fun source last hsource => ?_⟩
  · rw [hlast]
    exact h.sound item hitem
  · rw [hlast] at hsource
    exact h.complete source last hsource

theorem lastFailed_failure (identity source other : String) (calls : List (ℚ × Call)) (now : ℚ) :
    lastFailed identity other (calls ++ [(now, .failure identity source)]) =
      if source = other then some now else lastFailed identity other calls := by
  rw [lastFailed_concat, nextFailed]
  exact if_congr (and_iff_right rfl) rfl rfl

/-- Writing down a failure, for which the oldest may make room. -/
theorem Tracks.record {guard : GuessGuard} (hspread : 1 ≤ guard.spread)
    (h : Tracks guard.spread window calls now identity (guard.failingSources identity now).1)
    (hlatest : ∀ call ∈ calls, call.1 ≤ now) :
    Tracks guard.spread window (calls ++ [(now, .failure identity source)]) now identity
      (guard.recorded identity source now) := by
  have hsize := @size_recorded_le guard identity source now hspread h.size_le (h.past hlatest)
  have hnew := @get?_recorded guard identity source now hspread h.size_le (h.past hlatest)
  refine ⟨hsize, fun item hitem => ?_, fun other last hlast => ?_⟩
  · rw [lastFailed_failure]
    split
    · next hsame =>
        obtain ⟨key, time⟩ := item
        obtain rfl : source = key := hsame
        exact hnew.symm.trans (Dict.get?_eq_some_iff.mpr hitem)
    · next hother =>
        rcases mem_recorded hitem with rfl | hold
        · exact absurd rfl hother
        · exact h.sound item hold
  · rw [lastFailed_failure] at hlast
    split at hlast
    · next hsame => exact .inl (by rw [← hsame, hnew, hlast])
    · next hother =>
        have htime : last ≤ now := hlatest _ (mem_of_lastFailed hlast)
        have hkept : ∀ item ∈ (guard.recorded identity source now).items,
            (∀ old ∈ (guard.failingSources identity now).1.items, last ≤ old.2) → last ≤ item.2 := by
          intro item hitem hold
          rcases mem_recorded hitem with rfl | hmem
          · exact htime
          · exact hold item hmem
        rcases @recorded_cases guard identity source now hspread h.size_le (h.past hlatest) with
          ⟨heq, -⟩ | ⟨oldest, hmem, hfresh, hcount, hle, heq⟩
        · rw [heq, Dict.get?_set, if_neg (Ne.symm hother)]
          rcases h.complete other last hlast with hget | hlong | ⟨hfull, hold⟩
          · exact .inl hget
          · exact .inr (.inl hlong)
          · refine .inr (.inr ⟨?_, fun item hitem => hkept item (heq ▸ hitem) hold⟩)
            rw [Dict.size_set]
            split <;> omega
        · have hsame : (guard.recorded identity source now).size = 4 * guard.spread := by
            rw [heq, size_set_erase hmem hfresh, hcount]
          by_cases holdest : other = oldest.1
          · have hlast' := h.sound oldest hmem
            rw [← holdest, hlast] at hlast'
            obtain rfl := Option.some_inj.mp hlast'
            exact .inr (.inr ⟨hsame.ge, fun item hitem => hkept item hitem hle⟩)
          · rcases h.complete other last hlast with hget | hlong | ⟨-, hold⟩
            · rw [heq, Dict.get?_erase, if_neg holdest, Dict.get?_set, if_neg (Ne.symm hother)]
              exact .inl hget
            · exact .inr (.inl hlong)
            · exact .inr (.inr ⟨hsame.ge, fun item hitem => hkept item hitem hold⟩)

end

/-! ### The guard after a call -/

section

variable {guard : GuessGuard} {identity other source : String} {now : ℚ}

theorem tracked_failing (guard : GuessGuard) (identity other : String) (now : ℚ) :
    (guard.failingSources identity now).2.tracked other =
      if other = identity then (guard.failingSources identity now).1 else guard.tracked other := by
  rw [tracked, get?_sources_failing]
  split
  · cases hget : guard.sources.get? identity with
    | none =>
        rw [failingSources, hget]
        rfl
    | some sources => rfl
  · rfl

/-- A failure with room for its identity leaves the sources of the others. -/
theorem tracked_failure (hfits : guard.WaitFits now identity source)
    (hroom : guard.sources.contains identity = true ∨ guard.sources.size < guard.maxKeys) :
    (guard.failure identity source now).2.tracked other =
      if other = identity then guard.recorded identity source now else guard.tracked other := by
  have hall : guard.room identity now = (guard.failingSources identity now).2.sources := by
    refine if_neg ?_
    rw [contains_sources_failing, size_sources_failing]
    rcases hroom with hthere | hless
    · simp [hthere]
    · simp [hless]
  rw [failure_of_ok (failure_pair_ok_iff.mpr hfits), tracked]
  dsimp only
  rw [Dict.get?_moveToEnd, Dict.get?_set, hall, get?_sources_failing]
  split
  · rfl
  · rfl

theorem failure_identity (hfits : guard.WaitFits now identity source) :
    (guard.failure identity source now).2.identity = guard.slowed identity source now := by
  rw [failure_of_ok (failure_pair_ok_iff.mpr hfits)]

theorem delayFor_fst (guard : GuessGuard) (identity source : String) (now : ℚ) :
    (guard.delayFor identity source now).1 =
      if guard.spread ≤ (guard.failingSources identity now).1.size then
        max (guard.pair.delayFor (pairKey identity source) now).1 (guard.identity.delayFor identity now).1
      else (guard.pair.delayFor (pairKey identity source) now).1 := by
  unfold delayFor
  dsimp only
  rw [failingSources_with_pair, failingSources_eq]
  split <;> rfl

theorem delayFor_snd (guard : GuessGuard) (identity source : String) (now : ℚ) :
    (guard.delayFor identity source now).2 =
      { (guard.failingSources identity now).2 with
        pair := (guard.pair.delayFor (pairKey identity source) now).2
        identity := if guard.spread ≤ (guard.failingSources identity now).1.size then
          (guard.identity.delayFor identity now).2 else guard.identity } := by
  unfold delayFor
  dsimp only
  rw [failingSources_with_pair, failingSources_eq]
  dsimp only
  split <;> rfl

end

/-! ### Whole runs -/

/-- A run in order, with room for every key, in which no source has a NUL and no key fails 1000 times in
a row. -/
structure Undisturbed (start : GuessGuard) (calls : List (ℚ × Call)) : Prop where
  sorted : (calls.map (·.1)).Pairwise (· ≤ ·)
  noNul : ∀ call ∈ calls, '\x00' ∉ call.2.source.toList
  pairRoom : NoEvictions start.pair (pairCalls calls)
  identityRoom : NoEvictions start.identity (identityCalls start.spread start.window calls)
  sourcesRoom : ∀ before now identity source rest,
    calls = before ++ (now, .failure identity source) :: rest →
      (start.after before).sources.contains identity = true ∨
        (start.after before).sources.size < start.maxKeys
  pairCounts : ∀ before rest identity source failures last, calls = before ++ rest →
    failuresOf start.window identity source before = some (failures, last) → failures < 1000
  identityCounts : ∀ before rest identity failures last, calls = before ++ rest →
    streakOf start.window identity (identityCalls start.spread start.window before) =
      some (failures, last) → failures < 1000

/-- The guard after calls until `latest`: its sources are those that failed, and the throttle of
identities got its calls. -/
structure Follows (start guard : GuessGuard) (calls : List (ℚ × Call)) (latest : ℚ) : Prop where
  spread : guard.spread = start.spread
  window : guard.window = start.window
  maxKeys : guard.maxKeys = start.maxKeys
  identity : guard.identity = start.identity.after (identityCalls start.spread start.window calls)
  tracks : 1 ≤ start.spread → ∀ identity,
    Tracks start.spread start.window calls latest identity (guard.tracked identity)

section

variable {start guard : GuessGuard} {calls : List (ℚ × Call)} {latest now : ℚ}

theorem Follows.fresh (h : Follows start guard calls latest) (hnow : latest ≤ now)
    (hspread : 1 ≤ start.spread) (identity : String) :
    Tracks start.spread start.window calls now identity (guard.failingSources identity now).1 := by
  refine (h.tracks hspread identity).drop hnow ?_
  rw [items_failing, h.window]

/-- The guard sees many sources if and only if many failed. -/
theorem Follows.many_iff (h : Follows start guard calls latest) (hnow : latest ≤ now)
    (hsorted : (calls.map (·.1)).Pairwise (· ≤ ·)) (identity : String) :
    guard.spread ≤ (guard.failingSources identity now).1.size ↔
      start.spread ≤ (failingWithin start.window identity now calls).card := by
  rw [h.spread]
  rcases Nat.eq_zero_or_pos start.spread with hzero | hspread
  · rw [hzero]
    exact iff_of_true (Nat.zero_le _) (Nat.zero_le _)
  · refine (h.fresh hnow hspread identity).many_iff hspread hsorted fun item hitem => ?_
    rw [items_failing, h.window] at hitem
    exact of_decide_eq_true (List.mem_filter.mp hitem).2

theorem Follows.later (h : Follows start guard calls latest) (hnow : latest ≤ now) :
    Follows start guard calls now :=
  { h with tracks := fun hspread identity => (h.tracks hspread identity).later hnow }

theorem follows_failure {identity source : String} (h : Follows start guard calls latest)
    (hnow : latest ≤ now) (hwindow : 0 ≤ start.window)
    (hsorted : ((calls ++ [(now, Call.failure identity source)]).map (·.1)).Pairwise (· ≤ ·))
    (hfits : guard.WaitFits now identity source)
    (hroom : guard.sources.contains identity = true ∨ guard.sources.size < start.maxKeys) :
    Follows start (guard.failure identity source now).2 (calls ++ [(now, .failure identity source)])
      now := by
  have hparameters : (guard.failure identity source now).2.spread = guard.spread ∧
      (guard.failure identity source now).2.window = guard.window ∧
      (guard.failure identity source now).2.maxKeys = guard.maxKeys := by
    rw [failure_of_ok (failure_pair_ok_iff.mpr hfits)]
    exact ⟨rfl, rfl, rfl⟩
  have hpast := times_le_of_sorted hsorted
  have hrecord (hspread : 1 ≤ start.spread) : Tracks start.spread start.window
      (calls ++ [(now, Call.failure identity source)]) now identity
      (guard.recorded identity source now) := by
    have hfresh := h.fresh hnow hspread identity
    rw [← h.spread] at hfresh hspread ⊢
    exact hfresh.record hspread hpast
  refine ⟨hparameters.1.trans h.spread, hparameters.2.1.trans h.window,
    hparameters.2.2.trans h.maxKeys, ?_, fun hspread other => ?_⟩
  · have hmany : guard.spread ≤ (guard.recorded identity source now).size ↔
        start.spread ≤ (failingWithin start.window identity now
          (calls ++ [(now, .failure identity source)])).card := by
      rw [h.spread]
      rcases Nat.eq_zero_or_pos start.spread with hzero | hspread
      · rw [hzero]
        exact iff_of_true (Nat.zero_le _) (Nat.zero_le _)
      · refine (hrecord hspread).many_iff hspread hsorted fun item hitem => ?_
        rcases mem_recorded hitem with rfl | hold
        · rw [sub_self]
          exact hwindow
        · rw [items_failing, h.window] at hold
          exact of_decide_eq_true (List.mem_filter.mp hold).2
    rw [failure_identity hfits, slowed, identityCalls_concat, identityCall]
    simp only [hmany]
    split
    · rw [Naco.after_concat, ← h.identity]
      rfl
    · rw [List.append_nil, h.identity]
  · rw [tracked_failure hfits (h.maxKeys ▸ hroom)]
    split
    · next hsame =>
        rw [hsame]
        exact hrecord hspread
    · next hother =>
        have hlater := (h.tracks hspread other).later hnow
        exact hlater.other fun source' heq => hother (Call.failure.inj heq).1.symm

/-- A call that counts no failure. -/
theorem follows_other {call : Call} {after : GuessGuard} (h : Follows start guard calls latest)
    (hnow : latest ≤ now) (hcall : ∀ identity source, call ≠ .failure identity source)
    (hspread : after.spread = guard.spread) (hwindow : after.window = guard.window)
    (hkeys : after.maxKeys = guard.maxKeys)
    (hidentity : after.identity =
      guard.identity.after (identityCall start.spread start.window calls (now, call)))
    (htracked : ∀ identity, after.tracked identity = guard.tracked identity ∨
      after.tracked identity = (guard.failingSources identity now).1) :
    Follows start after (calls ++ [(now, call)]) now := by
  refine ⟨hspread.trans h.spread, hwindow.trans h.window, hkeys.trans h.maxKeys, ?_,
    fun hmany identity => ?_⟩
  · rw [hidentity, h.identity, identityCalls_concat, ProgressiveDelay.after, ProgressiveDelay.after,
      ProgressiveDelay.after, List.foldl_append]
  · refine Tracks.other ?_ (hcall identity)
    rcases htracked identity with hsame | hdropped
    · rw [hsame]
      exact (h.tracks hmany identity).later hnow
    · rw [hdropped]
      exact h.fresh hnow hmany identity

theorem follows_delayFor (h : Follows start guard calls latest) (hnow : latest ≤ now)
    (hsorted : (calls.map (·.1)).Pairwise (· ≤ ·)) (identity source : String) :
    Follows start (guard.delayFor identity source now).2 (calls ++ [(now, .delayFor identity source)])
      now := by
  have hmany := h.many_iff hnow hsorted identity
  rw [delayFor_snd, failingSources_eq]
  refine follows_other h hnow nofun rfl rfl rfl ?_ fun other => ?_
  · dsimp only [identityCall]
    simp only [hmany]
    split <;> rfl
  · have htracked := tracked_failing guard identity other now
    rw [failingSources_eq] at htracked
    split at htracked
    · next hsame =>
        subst hsame
        exact .inr htracked
    · exact .inl htracked

/-! #### Counts -/

theorem Undisturbed.before {before rest : List (ℚ × Call)} (h : Undisturbed start (before ++ rest)) :
    Undisturbed start before where
  sorted := sorted_before h.sorted
  noNul := fun call hcall => h.noNul call (List.mem_append_left _ hcall)
  pairRoom := by
    have hroom := h.pairRoom
    rw [pairCalls, List.map_append] at hroom
    exact hroom.before
  identityRoom := by
    have hroom := h.identityRoom
    rw [identityCalls, identityCallsFrom_append] at hroom
    exact hroom.before
  sourcesRoom := fun earlier now identity source later hsplit =>
    h.sourcesRoom earlier now identity source (later ++ rest) (by simp [hsplit])
  pairCounts := fun earlier later identity source failures last hsplit =>
    h.pairCounts earlier (later ++ rest) identity source failures last (by simp [hsplit])
  identityCounts := fun earlier later identity failures last hsplit =>
    h.identityCounts earlier (later ++ rest) identity failures last (by simp [hsplit])

theorem countsFit_pair (h : Undisturbed start calls) (hforget : start.pair.forget = start.window) :
    CountsFit start.pair (pairCalls calls) := by
  intro before now key rest failures last hsplit hstreak
  obtain ⟨earlier, rest, rfl, rfl, hrest⟩ := List.map_eq_append_iff.mp hsplit
  obtain ⟨⟨time, call⟩, later, rfl, hcall, rfl⟩ := List.map_eq_cons_iff.mp hrest
  obtain ⟨rfl, hfailure⟩ := Prod.mk.inj hcall
  have hsplit' : earlier ++ (time, call) :: later = (earlier ++ [(time, call)]) ++ later := by simp
  rw [hsplit'] at h
  cases call with
  | failure identity source =>
      obtain rfl := DelayCall.failure.inj hfailure
      have hsource : '\x00' ∉ source.toList := h.noNul (time, .failure identity source) (by simp)
      change streakOf _ _ (pairCalls earlier ++ pairCalls [(time, .failure identity source)]) = _
        at hstreak
      rw [pairCalls, pairCalls, ← List.map_append, hforget] at hstreak
      change streakOf _ _ (pairCalls (earlier ++ [(time, .failure identity source)])) = _ at hstreak
      rw [streakOf_pairCalls hsource h.before.noNul] at hstreak
      have hfew := h.pairCounts _ later identity source failures last rfl hstreak
      omega
  | success identity source => cases hfailure
  | delayFor identity source => cases hfailure

theorem countsFit_identity (h : Undisturbed start calls) (hforget : start.identity.forget = start.window) :
    CountsFit start.identity (identityCalls start.spread start.window calls) := by
  induction calls using List.reverseRecOn with
  | nil =>
      intro before now key rest failures last hsplit
      exact absurd hsplit.symm (by simp [identityCalls, identityCallsFrom])
  | append_singleton calls call ih =>
      have hcount (identity : String) (failures : Nat) (last : ℚ)
          (hstreak : streakOf start.identity.forget identity
            (identityCalls start.spread start.window (calls ++ [call])) = some (failures, last)) :
          failures ≤ start.identity.free + 1024 := by
        rw [hforget] at hstreak
        have hfew := h.identityCounts _ [] identity failures last (List.append_nil _).symm hstreak
        omega
      rw [identityCalls_concat] at hcount ⊢
      have hone : identityCall start.spread start.window calls call = [] ∨
          ∃ made, identityCall start.spread start.window calls call = [made] := by
        obtain ⟨now, call⟩ := call
        cases call with
        | failure identity source => rw [identityCall]; split <;> simp
        | success identity source => exact .inl rfl
        | delayFor identity source => rw [identityCall]; split <;> simp
      rcases hone with hnone | ⟨made, hmade⟩
      · rw [hnone, List.append_nil]
        exact ih h.before
      · rw [hmade] at hcount ⊢
        exact (ih h.before).concat fun now key failures last _ => hcount key failures last

/-! #### What the guard says -/

/-- A guard that has seen no calls. -/
structure Fresh (start : GuessGuard) : Prop where
  pair : start.pair.state = Dict.empty
  identity : start.identity.state = Dict.empty
  sources : start.sources = Dict.empty
  pairForget : start.pair.forget = start.window
  identityForget : start.identity.forget = start.window

theorem fresh_new (freeAttempts : Nat) (cap : ℚ) (spread : Nat) (window : ℚ) (maxKeys : Nat) :
    Fresh (.new freeAttempts cap spread window maxKeys) :=
  ⟨rfl, rfl, rfl, rfl, rfl⟩

theorem Fresh.follows (h : Fresh start) (latest : ℚ) : Follows start start [] latest where
  spread := rfl
  window := rfl
  maxKeys := rfl
  identity := rfl
  tracks := fun _ _ => by
    rw [tracked, h.sources]
    refine ⟨Nat.zero_le _, fun item hitem => ?_, fun source last hlast => ?_⟩
    · exact absurd hitem List.not_mem_nil
    · cases hlast

theorem stores_pair (hfresh : Fresh start) (h : Undisturbed start calls)
    (hlatest : ∀ call ∈ calls, call.1 ≤ latest) (key : String) :
    Stores (start.after calls).pair latest key (streakOf start.window key (pairCalls calls)) := by
  have hsorted : ((pairCalls calls).map (·.1)).Pairwise (· ≤ ·) := by
    rw [pairCalls, List.map_map]
    exact h.sorted
  have hfit := countsFit_pair h hfresh.pairForget
  obtain ⟨-, hstores⟩ := stores_after hfresh.pair hsorted h.pairRoom hfit
  rw [pair_after, ← hfresh.pairForget]
  refine hstores latest (fun call hcall => ?_) key
  obtain ⟨earlier, hearlier, rfl⟩ := List.mem_map.mp hcall
  exact hlatest earlier hearlier

theorem waitFits_of_undisturbed {before rest : List (ℚ × Call)} {identity source : String}
    (hfresh : Fresh start)
    (h : Undisturbed start (before ++ (now, .failure identity source) :: rest)) :
    (start.after before).WaitFits now identity source := by
  have hsame := ProgressiveDelay.after_same start.pair (pairCalls before)
  have hfit := countsFit_pair h hfresh.pairForget
  have hstores := stores_pair hfresh h.before (times_le_of_sorted h.sorted)
    (pairKey identity source)
  rw [pair_after, ← hfresh.pairForget] at hstores
  rw [WaitFits, pair_after, ← pairCalls, hsame.free, ← Nat.succ_le_iff]
  refine hfit (pairCalls before) now _ (pairCalls rest) _ now ?_ (streakOf_failure hsame hstores)
  rw [pairCalls, List.map_append, List.map_cons]
  rfl

theorem follows_after (hfresh : Fresh start) (hwindow : 0 ≤ start.window) (h : Undisturbed start calls)
    (hlatest : ∀ call ∈ calls, call.1 ≤ latest) : Follows start (start.after calls) calls latest := by
  induction calls using List.reverseRecOn generalizing latest with
  | nil => exact hfresh.follows latest
  | append_singleton before call ih =>
      obtain ⟨now, call⟩ := call
      have hbefore := ih h.before (times_le_of_sorted h.sorted)
      refine Follows.later ?_ (hlatest (now, call) (by simp))
      rw [after_concat]
      cases call with
      | failure identity source =>
          exact follows_failure hbefore le_rfl hwindow h.sorted (waitFits_of_undisturbed hfresh h)
            (h.sourcesRoom before now identity source [] rfl)
      | success identity source =>
          exact follows_other hbefore le_rfl nofun rfl rfl rfl rfl fun _ => .inl rfl
      | delayFor identity source =>
          exact follows_delayFor hbefore le_rfl (sorted_before h.sorted) identity source

/-- The wait of a key whose failures in a row are these. A key that is not stored waits until the clock
has started. -/
def waitOf (throttle : ProgressiveDelay) (streak : Option (Nat × ℚ)) (now : ℚ) : ℚ :=
  match streak with
  | some (failures, last) =>
      if now - last ≤ throttle.forget then max 0 (last + throttle.promised failures - now)
      else max 0 (0 - now)
  | none => max 0 (0 - now)

theorem delayFor_eq_waitOf {throttle : ProgressiveDelay} {key : String} {streak : Option (Nat × ℚ)}
    (h : Stores throttle latest key streak) (hnow : latest ≤ now) :
    (throttle.delayFor key now).1 = waitOf throttle streak now := by
  unfold ProgressiveDelay.delayFor ProgressiveDelay.current waitOf
  cases h with
  | none h => rw [h]
  | failures h =>
      rw [h]
      dsimp only
      split
      · next hlong => rw [if_neg (not_le.mpr hlong)]
      · next hrecent => rw [if_pos (not_lt.mp hrecent)]
  | forgotten h hlong =>
      rw [h]
      dsimp only
      rw [if_neg (by linarith)]

theorem waitOf_same {throttle other : ProgressiveDelay} (h : throttle.SameParameters other)
    (streak : Option (Nat × ℚ)) (now : ℚ) : waitOf other streak now = waitOf throttle streak now := by
  unfold waitOf
  simp only [h.forget, h.promised]

/-- The throttle of identities gets calls at times of the run. -/
theorem times_identityCalls (spread : Nat) (window : ℚ) (before calls : List (ℚ × Call)) :
    ((identityCallsFrom spread window before calls).map (·.1)).Sublist (calls.map (·.1)) := by
  induction calls generalizing before with
  | nil => exact List.Sublist.refl _
  | cons call calls ih =>
      have hone : ((identityCall spread window before call).map (·.1)).Sublist [call.1] := by
        obtain ⟨now, call⟩ := call
        cases call with
        | failure identity source => rw [identityCall]; split <;> simp
        | success identity source => exact List.nil_sublist _
        | delayFor identity source => rw [identityCall]; split <;> simp
      rw [identityCallsFrom, List.map_append]
      exact hone.append (ih _)

theorem stores_identity (hfresh : Fresh start) (hwindow : 0 ≤ start.window) (h : Undisturbed start calls)
    (hlatest : ∀ call ∈ calls, call.1 ≤ latest) (identity : String) :
    Stores (start.after calls).identity latest identity
      (streakOf start.window identity (identityCalls start.spread start.window calls)) := by
  have htimes := times_identityCalls start.spread start.window [] calls
  have hfit := countsFit_identity h hfresh.identityForget
  obtain ⟨-, hstores⟩ := stores_after hfresh.identity (h.sorted.sublist htimes) h.identityRoom hfit
  rw [(follows_after hfresh hwindow h hlatest).identity, ← hfresh.identityForget]
  rw [hfresh.identityForget] at hstores ⊢
  refine hstores latest (fun call hcall => ?_) identity
  obtain ⟨earlier, hearlier, heq⟩ := List.mem_map.mp (htimes.subset (List.mem_map_of_mem hcall))
  rw [← heq]
  exact hlatest earlier hearlier

/-- The wait for an identity and a source after a run. -/
def delayOf (start : GuessGuard) (identity source : String) (calls : List (ℚ × Call)) (now : ℚ) : ℚ :=
  let wait := waitOf start.pair (failuresOf start.window identity source calls) now
  if start.spread ≤ (failingWithin start.window identity now calls).card then
    max wait (waitOf start.identity
      (streakOf start.window identity (identityCalls start.spread start.window calls)) now)
  else wait

theorem delayFor_identity (hfresh : Fresh start) (hwindow : 0 ≤ start.window)
    (h : Undisturbed start calls) (hlatest : ∀ call ∈ calls, call.1 ≤ now) (identity : String) :
    ((start.after calls).identity.delayFor identity now).1 = waitOf start.identity
      (streakOf start.window identity (identityCalls start.spread start.window calls)) now := by
  rw [delayFor_eq_waitOf (stores_identity hfresh hwindow h hlatest identity) le_rfl,
    (follows_after hfresh hwindow h hlatest).identity, waitOf_same (ProgressiveDelay.after_same _ _)]

theorem delayFor_after {identity source : String} (hfresh : Fresh start) (hwindow : 0 ≤ start.window)
    (h : Undisturbed start calls) (hlatest : ∀ call ∈ calls, call.1 ≤ now)
    (hsource : '\x00' ∉ source.toList) :
    ((start.after calls).delayFor identity source now).1 = start.delayOf identity source calls now := by
  have hmany := (follows_after hfresh hwindow h hlatest).many_iff le_rfl h.sorted identity
  have hpair : ((start.after calls).pair.delayFor (pairKey identity source) now).1 =
      waitOf start.pair (failuresOf start.window identity source calls) now := by
    rw [delayFor_eq_waitOf (stores_pair hfresh h hlatest _) le_rfl,
      streakOf_pairCalls hsource h.noNul, pair_after, waitOf_same (ProgressiveDelay.after_same _ _)]
  rw [delayFor_fst, hpair, delayFor_identity hfresh hwindow h hlatest, delayOf]
  simp only [hmany]

/-! #### One identity -/

/-- The calls for an identity. -/
def own (identity : String) (calls : List (ℚ × Call)) : List (ℚ × Call) :=
  calls.filter fun call => decide (call.2.identity = identity)

theorem own_concat (identity : String) (calls : List (ℚ × Call)) (call : ℚ × Call) :
    own identity (calls ++ [call]) =
      if call.2.identity = identity then own identity calls ++ [call] else own identity calls := by
  rw [own, List.filter_append]
  by_cases hsame : call.2.identity = identity
  · rw [if_pos hsame, List.filter_eq_self.mpr (by simpa using hsame : ∀ c ∈ [call], _), own]
  · rw [if_neg hsame, List.filter_eq_nil_iff.mpr (by simpa using hsame : ∀ c ∈ [call], _),
      List.append_nil, own]

theorem failuresOf_own (window : ℚ) (identity source : String) (calls : List (ℚ × Call)) :
    failuresOf window identity source (own identity calls) = failuresOf window identity source calls := by
  induction calls using List.reverseRecOn with
  | nil => rfl
  | append_singleton calls call ih =>
      rw [own_concat, failuresOf_concat]
      split
      · rw [failuresOf_concat, ih]
      · next hother =>
          rw [ih]
          obtain ⟨now, call⟩ := call
          cases call with
          | failure identity' source' => exact (if_neg fun hsame => hother hsame.1).symm
          | success identity' source' => exact (if_neg fun hsame => hother hsame.1).symm
          | delayFor identity' source' => rfl

theorem failingWithin_own (window : ℚ) (identity : String) (now : ℚ) (calls : List (ℚ × Call)) :
    failingWithin window identity now (own identity calls) = failingWithin window identity now calls := by
  ext source
  simp only [mem_failingWithin, own, List.mem_filter]
  exact exists_congr fun time => and_congr_left' (and_iff_left (decide_eq_true rfl))

theorem streakOf_identityCalls_own (spread : Nat) (window : ℚ) (identity : String)
    (calls : List (ℚ × Call)) :
    streakOf window identity (identityCalls spread window (own identity calls)) =
      streakOf window identity (identityCalls spread window calls) := by
  induction calls using List.reverseRecOn with
  | nil => rfl
  | append_singleton calls call ih =>
      have hsplit (before : List (ℚ × Call)) :
          streakOf window identity (identityCalls spread window (before ++ [call])) =
            (identityCall spread window before call).foldl (nextStreak window identity)
              (streakOf window identity (identityCalls spread window before)) := by
        rw [identityCalls_concat, streakOf, List.foldl_append]
        rfl
      rw [own_concat]
      split
      · next hsame =>
          have hcall : identityCall spread window (own identity calls) call =
              identityCall spread window calls call := by
            obtain ⟨now, call⟩ := call
            have hlater := own_concat identity calls (now, call)
            rw [if_pos hsame] at hlater
            subst hsame
            cases call with
            | failure identity' source =>
                simp only [identityCall]
                rw [← hlater]
                exact if_congr (by rw [← failingWithin_own _ _ _ (calls ++ _)]; rfl) rfl rfl
            | success identity' source => rfl
            | delayFor identity' source =>
                exact if_congr (by rw [← failingWithin_own _ _ _ calls]; rfl) rfl rfl
          rw [hsplit, hsplit, hcall, ih]
      · next hother =>
          rw [hsplit, ih]
          obtain ⟨now, call⟩ := call
          cases call with
          | failure identity' source =>
              rw [identityCall]
              split
              · exact (if_neg hother).symm
              · rfl
          | success identity' source => rfl
          | delayFor identity' source => rw [identityCall]; split <;> rfl

theorem delayOf_own (start : GuessGuard) (identity source : String) (calls : List (ℚ × Call)) (now : ℚ) :
    start.delayOf identity source (own identity calls) now = start.delayOf identity source calls now := by
  rw [delayOf, failuresOf_own, failingWithin_own, streakOf_identityCalls_own]
  rfl

/-! #### No wait, and a wait -/

theorem last_le_of_failuresOf {window : ℚ} {identity source : String} {failures : Nat} {last : ℚ}
    (hlatest : ∀ call ∈ calls, call.1 ≤ now)
    (h : failuresOf window identity source calls = some (failures, last)) : last ≤ now := by
  induction calls using List.reverseRecOn generalizing failures last with
  | nil => cases h
  | append_singleton calls call ih =>
      rw [List.forall_mem_append, List.forall_mem_singleton] at hlatest
      rw [failuresOf_concat] at h
      obtain ⟨time, call⟩ := call
      cases call with
      | failure identity' source' =>
          rw [nextFailures] at h
          split at h
          · obtain ⟨-, rfl⟩ := Prod.mk.inj (Option.some_inj.mp h)
            exact hlatest.2
          · exact ih hlatest.1 h
      | success identity' source' =>
          rw [nextFailures] at h
          split at h
          · cases h
          · exact ih hlatest.1 h
      | delayFor identity' source' => exact ih hlatest.1 h

/-- Free attempts cost no wait. -/
theorem waitOf_free {throttle : ProgressiveDelay} {streak : Option (Nat × ℚ)} (hnow : 0 ≤ now)
    (hlast : ∀ failures last, streak = some (failures, last) → last ≤ now)
    (hfree : recentFailures throttle.forget now streak ≤ throttle.free) :
    waitOf throttle streak now = 0 := by
  have hstarted : max 0 (0 - now) = 0 := max_eq_left (by linarith)
  unfold waitOf
  cases streak with
  | none => exact hstarted
  | some streak =>
      obtain ⟨failures, last⟩ := streak
      have hle := hlast failures last rfl
      dsimp only [recentFailures] at hfree ⊢
      split
      · next hrecent =>
          rw [if_pos hrecent] at hfree
          rw [ProgressiveDelay.promised, if_pos hfree, add_zero]
          exact max_eq_left (by linarith)
      · exact hstarted

theorem promised_pos {throttle : ProgressiveDelay} (hcap : 0 < throttle.cap) (hbase : 0 < throttle.base)
    (hfree : throttle.free = 0) (failures : Nat) : 0 < throttle.promised (failures + 1) := by
  rw [ProgressiveDelay.promised, if_neg (by omega)]
  exact lt_min hcap (mul_pos hbase (pow_pos two_pos _))

/-- A failure of an identity that fails from many sources slows it down everywhere. -/
theorem delayFor_pos {before : List (ℚ × Call)} {identity source : String} (hfresh : Fresh start)
    (hwindow : 0 ≤ start.window) (hcap : 0 < start.identity.cap) (hbase : 0 < start.identity.base)
    (hfree : start.identity.free = 0)
    (h : Undisturbed start (before ++ [(now, .failure identity source)]))
    (hmany : start.spread ≤ (failingWithin start.window identity now
      (before ++ [(now, .failure identity source)])).card) (other : String) :
    0 < ((start.after (before ++ [(now, .failure identity source)])).delayFor identity other now).1 := by
  have hlatest : ∀ call ∈ before ++ [(now, .failure identity source)], call.1 ≤ now := by
    rw [List.forall_mem_append, List.forall_mem_singleton]
    exact ⟨times_le_of_sorted h.sorted, le_rfl⟩
  have hfollows := follows_after hfresh hwindow h hlatest
  have hcount : streakOf start.window identity (identityCalls start.spread start.window
      (before ++ [(now, .failure identity source)])) =
      some (recentFailures start.window now
        (streakOf start.window identity (identityCalls start.spread start.window before)) + 1, now) := by
    rw [identityCalls_concat, identityCall, if_pos hmany, streakOf_concat]
    exact if_pos rfl
  have hwait : 0 < ((start.after (before ++ [(now, .failure identity source)])).identity.delayFor
      identity now).1 := by
    rw [delayFor_identity hfresh hwindow h hlatest, hcount, waitOf]
    rw [sub_self, if_pos (hfresh.identityForget ▸ hwindow)]
    have hpos := promised_pos hcap hbase hfree (recentFailures start.window now
      (streakOf start.window identity (identityCalls start.spread start.window before)))
    exact lt_max_of_lt_right (by linarith)
  rw [delayFor_fst, if_pos ((hfollows.many_iff le_rfl h.sorted identity).mpr hmany)]
  exact lt_max_of_lt_right hwait

end

/-- In a run with room for every key: few failures from a source cost it no wait as long as few sources
fail; a failure when many do costs every source a wait; and only the calls for an identity count for it. -/
theorem guesses_isolated {freeAttempts spread maxKeys : Nat} {cap window : ℚ} (hcap : 0 < cap)
    (hwindow : 0 ≤ window) {calls : List (ℚ × Call)}
    (h : Undisturbed (.new freeAttempts cap spread window maxKeys) calls) :
    let start := GuessGuard.new freeAttempts cap spread window maxKeys
    (∀ identity source now, '\x00' ∉ source.toList → 0 ≤ now → (∀ call ∈ calls, call.1 ≤ now) →
      recentFailures window now (failuresOf window identity source calls) ≤ freeAttempts →
      (failingWithin window identity now calls).card < spread →
        ((start.after calls).delayFor identity source now).1 = 0) ∧
    (∀ before identity source now, calls = before ++ [(now, .failure identity source)] →
      spread ≤ (failingWithin window identity now calls).card →
        ∀ other, 0 < ((start.after calls).delayFor identity other now).1) ∧
    (∀ calls' identity source now, Undisturbed start calls' → '\x00' ∉ source.toList →
      (∀ call ∈ calls, call.1 ≤ now) → (∀ call ∈ calls', call.1 ≤ now) →
      own identity calls' = own identity calls →
        ((start.after calls').delayFor identity source now).1 =
          ((start.after calls).delayFor identity source now).1) := by
  intro start
  have hfresh : Fresh start := fresh_new _ _ _ _ _
  refine ⟨?_, ?_, ?_⟩
  · intro identity source now hsource hnow hlatest hfew hsources
    rw [delayFor_after hfresh hwindow h hlatest hsource]
    refine (if_neg (Nat.not_le.mpr hsources)).trans ?_
    exact waitOf_free hnow (fun failures last => last_le_of_failuresOf hlatest) hfew
  · rintro before identity source now rfl hmany other
    exact delayFor_pos hfresh hwindow hcap one_pos rfl h hmany other
  · intro calls' identity source now h' hsource hlatest hlatest' hown
    rw [delayFor_after hfresh hwindow h hlatest hsource, delayFor_after hfresh hwindow h' hlatest' hsource,
      ← delayOf_own, hown, delayOf_own]

/-! ### Short runs -/

theorem size_sources_call_le (guard : GuessGuard) (now : ℚ) (call : Call) :
    (guard.call now call).sources.size ≤ guard.sources.size + 1 := by
  cases call with
  | success identity source => exact Nat.le_succ _
  | delayFor identity source =>
      change (guard.delayFor identity source now).2.sources.size ≤ _
      unfold delayFor
      dsimp only
      split <;> exact (size_sources_failing _ identity now).le.trans (Nat.le_succ _)
  | failure identity source =>
      change (guard.failure identity source now).2.sources.size ≤ _
      cases hresult : (guard.pair.failure (pairKey identity source) now).1 with
      | error error =>
          rw [failure_of_error hresult]
          exact Nat.le_succ _
      | ok =>
          rw [failure_of_ok hresult]
          dsimp only
          have hall := size_sources_failing guard identity now
          have hroom : (guard.room identity now).size ≤ guard.sources.size := by
            have hpop := Dict.size_popFirst (guard.failingSources identity now).2.sources
            unfold room
            dsimp only
            split <;> omega
          rw [Dict.size_moveToEnd, Dict.size_set]
          split
          · exact hroom.trans (Nat.le_succ _)
          · exact Nat.succ_le_succ hroom

theorem size_sources_after_le {start : GuessGuard} (hempty : start.sources = Dict.empty)
    (calls : List (ℚ × Call)) : (start.after calls).sources.size ≤ calls.length := by
  induction calls using List.reverseRecOn with
  | nil =>
      change start.sources.size ≤ 0
      rw [hempty]
      exact le_rfl
  | append_singleton before call ih =>
      rw [after_concat, List.length_append, List.length_singleton]
      exact (size_sources_call_le _ _ _).trans (Nat.succ_le_succ ih)

theorem failuresOf_le_length {window : ℚ} {identity source : String} {calls : List (ℚ × Call)}
    {failures : Nat} {last : ℚ} (h : failuresOf window identity source calls = some (failures, last)) :
    failures ≤ calls.length := by
  induction calls using List.reverseRecOn generalizing failures last with
  | nil => cases h
  | append_singleton before call ih =>
      rw [List.length_append, List.length_singleton]
      rw [failuresOf_concat] at h
      obtain ⟨now, call⟩ := call
      cases call with
      | failure identity' source' =>
          rw [nextFailures] at h
          split at h
          · obtain ⟨rfl, -⟩ := Prod.mk.inj (Option.some_inj.mp h)
            exact Nat.succ_le_succ (recentFailures_le fun _ _ => ih)
          · exact (ih h).trans (Nat.le_succ _)
      | success identity' source' =>
          rw [nextFailures] at h
          split at h
          · cases h
          · exact (ih h).trans (Nat.le_succ _)
      | delayFor identity' source' => exact (ih h).trans (Nat.le_succ _)

theorem length_identityCalls_le (spread : Nat) (window : ℚ) (calls : List (ℚ × Call)) :
    (identityCalls spread window calls).length ≤ calls.length := by
  have hlength := (times_identityCalls spread window [] calls).length_le
  rw [List.length_map, List.length_map] at hlength
  exact hlength

/-- A short run in order is undisturbed. -/
theorem undisturbed_of_few {freeAttempts spread maxKeys : Nat} {cap window : ℚ}
    {calls : List (ℚ × Call)} (hsorted : (calls.map (·.1)).Pairwise (· ≤ ·))
    (hnul : ∀ call ∈ calls, '\x00' ∉ call.2.source.toList) (hroom : calls.length ≤ maxKeys)
    (hfew : calls.length < 1000) : Undisturbed (.new freeAttempts cap spread window maxKeys) calls where
  sorted := hsorted
  noNul := hnul
  pairRoom := noEvictions_of_length_le rfl (by rwa [pairCalls, List.length_map])
  identityRoom := noEvictions_of_length_le rfl ((length_identityCalls_le _ _ _).trans hroom)
  sourcesRoom := by
    rintro before now identity source rest rfl
    have hsize : ((GuessGuard.new freeAttempts cap spread window maxKeys).after before).sources.size ≤
        before.length := size_sources_after_le rfl before
    rw [List.length_append, List.length_cons] at hroom
    exact .inr (by change _ < maxKeys; omega)
  pairCounts := by
    rintro before rest identity source failures last rfl hstreak
    have hle := failuresOf_le_length hstreak
    rw [List.length_append] at hfew
    omega
  identityCounts := by
    rintro before rest identity failures last rfl hstreak
    have hle := (streakOf_le_length hstreak).trans (length_identityCalls_le _ _ _)
    rw [List.length_append] at hfew
    omega

/-- Alice fails from two sources, and Bob from one of them. -/
def twoSources : List (ℚ × Call) :=
  [(0, .failure "alice" "phone"), (1, .failure "bob" "phone"), (2, .delayFor "alice" "laptop"),
    (3, .failure "alice" "laptop")]

/-- With a spread of two the second source slows Alice down everywhere, and Bob, who failed from one,
nowhere; Bob's failure makes no difference to Alice. -/
theorem guesses_isolated_twoSources :
    let guard := (GuessGuard.new 5 30 2).after twoSources
    (guard.delayFor "bob" "phone" 4).1 = 0 ∧ 0 < (guard.delayFor "alice" "tablet" 3).1 ∧
      (((GuessGuard.new 5 30 2).after (own "alice" twoSources)).delayFor "alice" "phone" 3).1 =
        (guard.delayFor "alice" "phone" 3).1 := by
  have hrun : Undisturbed (.new 5 30 2) twoSources :=
    undisturbed_of_few (by decide +kernel) (by decide +kernel) (by decide) (by decide)
  obtain ⟨hfree, hslow, hown⟩ := guesses_isolated (by norm_num) (by norm_num) hrun
  refine ⟨hfree "bob" "phone" 4 (by decide) (by norm_num) (by decide +kernel) (by decide +kernel)
    (by decide +kernel), hslow (twoSources.take 3) "alice" "laptop" 3 rfl (by decide +kernel) "tablet", ?_⟩
  exact hown (own "alice" twoSources) "alice" "phone" 3
    (undisturbed_of_few (by decide +kernel) (by decide +kernel) (by decide) (by decide)) (by decide)
    (by decide +kernel) (by decide +kernel) (List.filter_eq_self.mpr fun _ h => (List.mem_filter.mp h).2)

end GuessGuard

end Naco
