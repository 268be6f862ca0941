import Naco.RateLimit
import Mathlib.Tactic.Linarith

/-!
# Waits after failures in a row

The wait doubles with every failure in a row, and the doubling is computed before it is cut to the cap:
after 1024 failures beyond the free ones it no longer fits in a float.
-/

namespace Naco

open Py

/-! ### Calls -/

inductive DelayCall where
  | failure (key : String)
  | success (key : String)
  | delayFor (key : String)

namespace ProgressiveDelay

/-- The result of a call, and the throttle after it. -/
def call (throttle : ProgressiveDelay) (now : ℚ) : DelayCall → Except Error ℚ × ProgressiveDelay
  | .failure key => ((throttle.failure key now).1.map fun _ => 0, (throttle.failure key now).2)
  | .success key => (.ok 0, throttle.success key)
  | .delayFor key => (.ok (throttle.delayFor key now).1, (throttle.delayFor key now).2)

/-- The throttle after calls at these times. -/
def after (throttle : ProgressiveDelay) (calls : List (ℚ × DelayCall)) : ProgressiveDelay :=
  calls.foldl (fun throttle call => (throttle.call call.1 call.2).2) throttle

/-- The wait that is promised after so many failures. -/
def promised (throttle : ProgressiveDelay) (failures : Nat) : ℚ :=
  if failures ≤ throttle.free then 0
  else min throttle.cap (throttle.base * 2 ^ (failures - throttle.free - 1))

theorem wait_eq_ok_iff (throttle : ProgressiveDelay) (failures : Nat) :
    (∃ wait, throttle.wait failures = .ok wait) ↔ failures ≤ throttle.free + 1024 := by
  unfold wait
  split
  · exact ⟨fun _ => by omega, fun _ => ⟨0, rfl⟩⟩
  · split
    · exact ⟨fun _ => by omega, fun _ => ⟨_, rfl⟩⟩
    · exact ⟨fun ⟨_, h⟩ => absurd h nofun, fun _ => by omega⟩

theorem wait_of_le {throttle : ProgressiveDelay} {failures : Nat}
    (h : failures ≤ throttle.free + 1024) : throttle.wait failures = .ok (throttle.promised failures) := by
  unfold wait promised
  split
  · rfl
  · rw [if_pos (by omega)]

/-- A new key for which there is no room. -/
def Evicts (throttle : ProgressiveDelay) (now : ℚ) (key : String) : Prop :=
  (throttle.current key now).2.state.contains key = false ∧
    throttle.maxKeys ≤ (throttle.current key now).2.state.size

end ProgressiveDelay

/-! ### Failures in a row -/

/-- The failures that one more is added to: none if the last is long ago. -/
def recentFailures (forget now : ℚ) : Option (Nat × ℚ) → Nat
  | some (failures, last) => if now - last ≤ forget then failures else 0
  | none => 0

/-- The failures of a key in a row, and the time of the last: each within `forget` of the one before,
and no success between them. -/
def nextStreak (forget : ℚ) (key : String) (streak : Option (Nat × ℚ)) :
    ℚ × DelayCall → Option (Nat × ℚ)
  | (now, .failure key') =>
      if key' = key then some (recentFailures forget now streak + 1, now) else streak
  | (_, .success key') => if key' = key then none else streak
  | (_, .delayFor _) => streak

def streakOf (forget : ℚ) (key : String) (calls : List (ℚ × DelayCall)) : Option (Nat × ℚ) :=
  calls.foldl (nextStreak forget key) none

theorem streakOf_concat (forget : ℚ) (key : String) (calls : List (ℚ × DelayCall))
    (call : ℚ × DelayCall) :
    streakOf forget key (calls ++ [call]) = nextStreak forget key (streakOf forget key calls) call := by
  rw [streakOf, List.foldl_append]
  rfl

/-! ### What the throttle keeps -/

/-- What is stored for a key whose failures in a row are these, after calls until `latest`: the
failures, or nothing once they are long ago. -/
inductive Stores (throttle : ProgressiveDelay) (latest : ℚ) (key : String) : Option (Nat × ℚ) → Prop
  | none (h : throttle.state.get? key = none) : Stores throttle latest key none
  | failures {failures : Nat} {last : ℚ}
      (h : throttle.state.get? key = some ⟨failures, last + throttle.promised failures, last⟩) :
      Stores throttle latest key (some (failures, last))
  | forgotten {failures : Nat} {last : ℚ} (h : throttle.state.get? key = .none)
      (hlong : throttle.forget < latest - last) : Stores throttle latest key (some (failures, last))

namespace ProgressiveDelay

variable {throttle : ProgressiveDelay} {latest now : ℚ} {key other : String}

/-- The parameters of a throttle are never changed. -/
structure SameParameters (throttle other : ProgressiveDelay) : Prop where
  base : other.base = throttle.base
  cap : other.cap = throttle.cap
  free : other.free = throttle.free
  forget : other.forget = throttle.forget
  maxKeys : other.maxKeys = throttle.maxKeys

theorem SameParameters.trans {middle last : ProgressiveDelay} (h : SameParameters throttle middle)
    (h' : SameParameters middle last) : SameParameters throttle last where
  base := h'.base.trans h.base
  cap := h'.cap.trans h.cap
  free := h'.free.trans h.free
  forget := h'.forget.trans h.forget
  maxKeys := h'.maxKeys.trans h.maxKeys

theorem SameParameters.promised {other : ProgressiveDelay} (h : SameParameters throttle other)
    (failures : Nat) : other.promised failures = throttle.promised failures := by
  simp only [ProgressiveDelay.promised, h.free, h.cap, h.base]

theorem current_same (throttle : ProgressiveDelay) (key : String) (now : ℚ) :
    SameParameters throttle (throttle.current key now).2 := by
  unfold current
  split
  · split <;> exact ⟨rfl, rfl, rfl, rfl, rfl⟩
  · exact ⟨rfl, rfl, rfl, rfl, rfl⟩

/-- A failure counts on from the recent ones. -/
theorem current_failures {streak : Option (Nat × ℚ)} (h : Stores throttle latest key streak)
    (hnow : latest ≤ now) :
    (throttle.current key now).1.failures = recentFailures throttle.forget now streak := by
  unfold current
  cases h with
  | none h => rw [h]; rfl
  | @failures failures last h =>
      rw [h]
      dsimp only [recentFailures]
      split
      · next hlong => rw [if_neg (not_le.mpr hlong)]
      · next hrecent => rw [if_pos (not_lt.mp hrecent)]
  | @forgotten failures last h hlong =>
      rw [h]
      dsimp only [recentFailures]
      rw [if_neg (by linarith)]

theorem stores_later {streak : Option (Nat × ℚ)} (h : Stores throttle latest key streak)
    (hnow : latest ≤ now) : Stores throttle now key streak := by
  cases h with
  | none h => exact .none h
  | failures h => exact .failures h
  | forgotten h hlong => exact .forgotten h (by linarith)

/-- What is stored for a key is all that counts. -/
theorem stores_congr {next : ProgressiveDelay} {streak : Option (Nat × ℚ)}
    (h : Stores throttle latest key streak) (hsame : SameParameters throttle next)
    (hget : next.state.get? key = throttle.state.get? key) : Stores next latest key streak := by
  cases h with
  | none h => exact .none (hget.trans h)
  | failures h =>
      refine .failures (hget.trans ?_)
      rw [hsame.promised, h]
  | forgotten h hlong => exact .forgotten (hget.trans h) (hsame.forget ▸ hlong)

/-- Looking at a key may forget it, and leaves the others. -/
theorem stores_current {streak : Option (Nat × ℚ)} (h : Stores throttle latest other streak)
    (hnow : latest ≤ now) : Stores (throttle.current key now).2 now other streak := by
  have hlater := stores_later h hnow
  unfold current
  split
  · next found hfound =>
      split
      · next hlong =>
          by_cases hkey : other = key
          · subst hkey
            have hgone : (throttle.state.erase other).get? other = none := by
              rw [Dict.get?_erase, if_pos rfl]
            cases h with
            | none h => exact .none hgone
            | failures h =>
                obtain rfl := Option.some_inj.mp (hfound.symm.trans h)
                exact .forgotten hgone hlong
            | forgotten h _ => exact absurd (hfound.symm.trans h) nofun
          · refine stores_congr hlater ⟨rfl, rfl, rfl, rfl, rfl⟩ ?_
            rw [Dict.get?_erase, if_neg hkey]
      · exact hlater
  · exact hlater

theorem failure_same (throttle : ProgressiveDelay) (key : String) (now : ℚ) :
    SameParameters throttle (throttle.failure key now).2 := by
  have hsame := current_same throttle key now
  unfold failure
  generalize throttle.current key now = found at hsame ⊢
  obtain ⟨found, after⟩ := found
  dsimp only at hsame ⊢
  split
  · exact hsame
  · exact ⟨hsame.base, hsame.cap, hsame.free, hsame.forget, hsame.maxKeys⟩

/-- A failure that is counted. -/
theorem failure_of_wait (hwait : throttle.wait ((throttle.current key now).1.failures + 1) =
      .ok (throttle.promised ((throttle.current key now).1.failures + 1)))
    (hroom : ¬ throttle.Evicts now key) :
    (throttle.failure key now).1 = .ok () ∧
      ∀ other, (throttle.failure key now).2.state.get? other =
        if other = key then
          some ⟨(throttle.current key now).1.failures + 1,
            now + throttle.promised ((throttle.current key now).1.failures + 1), now⟩
        else (throttle.current key now).2.state.get? other := by
  have hsame := current_same throttle key now
  have hwait' : (throttle.current key now).2.wait ((throttle.current key now).1.failures + 1) =
      .ok (throttle.promised ((throttle.current key now).1.failures + 1)) := by
    rw [← hwait]
    simp only [wait, hsame.free, hsame.cap, hsame.base]
  have hkeep : (!(throttle.current key now).2.state.contains key &&
      decide ((throttle.current key now).2.maxKeys ≤ (throttle.current key now).2.state.size)) =
        false := by
    rw [hsame.maxKeys]
    simpa [Evicts, imp_iff_not_or, or_comm] using hroom
  unfold failure
  generalize throttle.current key now = found at hsame hwait' hkeep ⊢
  obtain ⟨found, after⟩ := found
  dsimp only at hsame hwait' hkeep ⊢
  rw [hwait']
  dsimp only
  rw [hkeep]
  refine ⟨rfl, fun other => ?_⟩
  rw [Dict.get?_moveToEnd, Dict.get?_set]
  rfl

/-- A failure whose wait cannot be computed. -/
theorem failure_of_overflow {error : Error}
    (hwait : throttle.wait ((throttle.current key now).1.failures + 1) = .error error) :
    (throttle.failure key now).1 = .error error := by
  have hsame := current_same throttle key now
  have hwait' : (throttle.current key now).2.wait ((throttle.current key now).1.failures + 1) =
      .error error := by
    rw [← hwait]
    simp only [wait, hsame.free, hsame.cap, hsame.base]
  unfold failure
  dsimp only
  rw [hwait']

/-- One call, which is counted and has room. -/
theorem stores_call {call : DelayCall} {streak : Option (Nat × ℚ)}
    (h : Stores throttle latest other streak) (hnow : latest ≤ now)
    (hcounts : ∀ key, call = .failure key →
      throttle.wait ((throttle.current key now).1.failures + 1) =
          .ok (throttle.promised ((throttle.current key now).1.failures + 1)) ∧
        ¬ throttle.Evicts now key) :
    Stores (throttle.call now call).2 now other (nextStreak throttle.forget other streak (now, call)) ∧
      SameParameters throttle (throttle.call now call).2 ∧ ∃ value, (throttle.call now call).1 = .ok value := by
  cases call with
  | failure key =>
      obtain ⟨hwait, hroom⟩ := hcounts key rfl
      obtain ⟨hok, hget⟩ := failure_of_wait hwait hroom
      have hsame := failure_same throttle key now
      refine ⟨?_, hsame, 0, by rw [call, hok]; rfl⟩
      simp only [call, nextStreak]
      split
      · next hkey =>
          subst hkey
          rw [← current_failures h hnow]
          refine .failures ?_
          rw [hget, if_pos rfl, hsame.promised]
      · next hkey =>
          have hcurrent : Stores (throttle.current key now).2 now other streak :=
            stores_current h hnow
          have hparameters := current_same throttle key now
          refine stores_congr hcurrent ⟨?_, ?_, ?_, ?_, ?_⟩ ?_
          · rw [hsame.base, hparameters.base]
          · rw [hsame.cap, hparameters.cap]
          · rw [hsame.free, hparameters.free]
          · rw [hsame.forget, hparameters.forget]
          · rw [hsame.maxKeys, hparameters.maxKeys]
          · rw [hget, if_neg (Ne.symm hkey)]
  | success key =>
      refine ⟨?_, ⟨rfl, rfl, rfl, rfl, rfl⟩, 0, rfl⟩
      simp only [call, nextStreak]
      split
      · next hkey =>
          subst hkey
          refine .none ?_
          rw [success, Dict.get?_erase, if_pos rfl]
      · next hkey =>
          refine stores_congr (stores_later h hnow) ⟨rfl, rfl, rfl, rfl, rfl⟩ ?_
          rw [success, Dict.get?_erase, if_neg (Ne.symm hkey)]
  | delayFor key => exact ⟨stores_current h hnow, current_same throttle key now, _, rfl⟩

end ProgressiveDelay

/-! ### Whole runs -/

section

variable {start : ProgressiveDelay} {calls : List (ℚ × DelayCall)}

/-- No call of a run makes room for its key. -/
def NoEvictions (start : ProgressiveDelay) (calls : List (ℚ × DelayCall)) : Prop :=
  ∀ before now key rest, calls = before ++ (now, .failure key) :: rest →
    ¬ (start.after before).Evicts now key

/-- No key fails more often in a row than the free attempts and 1024 more. -/
def CountsFit (start : ProgressiveDelay) (calls : List (ℚ × DelayCall)) : Prop :=
  ∀ before now key rest failures last, calls = before ++ (now, .failure key) :: rest →
    streakOf start.forget key (before ++ [(now, .failure key)]) = some (failures, last) →
      failures ≤ start.free + 1024

/-- Every call of a run returns, and a key that failed waits as long as promised. -/
structure WaitsAsPromised (start : ProgressiveDelay) (calls : List (ℚ × DelayCall)) : Prop where
  returns : ∀ before now call rest, calls = before ++ (now, call) :: rest →
    ∃ value, ((start.after before).call now call).1 = .ok value
  waits : ∀ before rest key failures last now, calls = before ++ rest →
    streakOf start.forget key before = some (failures, last) →
    (∀ call ∈ before, call.1 ≤ now) → now ≤ last + start.forget →
      ((start.after before).delayFor key now).1 = max 0 (last + start.promised failures - now)

theorem NoEvictions.before {before rest : List (ℚ × DelayCall)} (h : NoEvictions start (before ++ rest)) :
    NoEvictions start before := by
  intro earlier now key later hsplit
  refine h earlier now key (later ++ rest) ?_
  rw [hsplit, List.append_assoc, List.cons_append]

theorem CountsFit.before {before rest : List (ℚ × DelayCall)} (h : CountsFit start (before ++ rest)) :
    CountsFit start before := by
  intro earlier now key later failures last hsplit hstreak
  refine h earlier now key (later ++ rest) failures last ?_ hstreak
  rw [hsplit, List.append_assoc, List.cons_append]

theorem CountsFit.concat {call : ℚ × DelayCall} (h : CountsFit start calls)
    (hlast : ∀ now key failures last, call = (now, .failure key) →
      streakOf start.forget key (calls ++ [call]) = some (failures, last) →
        failures ≤ start.free + 1024) : CountsFit start (calls ++ [call]) := by
  intro before now key rest failures last hsplit hstreak
  rcases List.eq_nil_or_concat rest with rfl | ⟨rest, final, rfl⟩
  · obtain ⟨rfl, hcall⟩ := List.append_inj' hsplit rfl
    obtain rfl := (List.cons.inj hcall).1
    exact hlast now key failures last rfl hstreak
  · have hconcat : calls ++ [call] = (before ++ (now, .failure key) :: rest) ++ [final] := by
      rw [hsplit, List.concat_eq_append, List.append_assoc, List.cons_append]
    obtain ⟨rfl, -⟩ := List.append_inj' hconcat rfl
    exact h before now key rest failures last rfl hstreak

theorem after_concat (start : ProgressiveDelay) (before : List (ℚ × DelayCall)) (call : ℚ × DelayCall) :
    start.after (before ++ [call]) = ((start.after before).call call.1 call.2).2 := by
  rw [ProgressiveDelay.after, List.foldl_append]
  rfl

theorem ProgressiveDelay.call_same (throttle : ProgressiveDelay) (now : ℚ) (call : DelayCall) :
    SameParameters throttle (throttle.call now call).2 := by
  cases call with
  | failure key => exact failure_same throttle key now
  | success key => exact ⟨rfl, rfl, rfl, rfl, rfl⟩
  | delayFor key => exact current_same throttle key now

theorem ProgressiveDelay.after_same (throttle : ProgressiveDelay) (calls : List (ℚ × DelayCall)) :
    SameParameters throttle (throttle.after calls) := by
  induction calls using List.reverseRecOn with
  | nil => exact ⟨rfl, rfl, rfl, rfl, rfl⟩
  | append_singleton before call ih =>
      rw [after_concat]
      exact ih.trans (call_same _ _ _)

theorem times_le_of_sorted {κ : Type} {before rest : List (ℚ × κ)} {call : ℚ × κ}
    (h : ((before ++ call :: rest).map (·.1)).Pairwise (· ≤ ·)) :
    ∀ earlier ∈ before, earlier.1 ≤ call.1 := by
  intro earlier hearlier
  rw [List.map_append, List.pairwise_append] at h
  exact h.2.2 _ (List.mem_map_of_mem hearlier) _ (by simp)

/-- What is stored before a failure says which one in a row it is. -/
theorem streakOf_failure {before : List (ℚ × DelayCall)} {now : ℚ} {key : String}
    (hsame : start.SameParameters (start.after before))
    (hstores : Stores (start.after before) now key (streakOf start.forget key before)) :
    streakOf start.forget key (before ++ [(now, .failure key)]) =
      some (((start.after before).current key now).1.failures + 1, now) := by
  rw [streakOf_concat, nextStreak, if_pos rfl,
    ProgressiveDelay.current_failures hstores le_rfl, hsame.forget]

/-- A call whose count fits is counted. -/
theorem counted_of_fit {before rest : List (ℚ × DelayCall)} {now : ℚ} {call : DelayCall}
    (hsame : start.SameParameters (start.after before))
    (hnow : ∀ key, Stores (start.after before) now key (streakOf start.forget key before))
    (hroom : NoEvictions start (before ++ (now, call) :: rest))
    (hfit : CountsFit start (before ++ (now, call) :: rest)) (key : String)
    (hcall : call = .failure key) :
    (start.after before).wait (((start.after before).current key now).1.failures + 1) =
        .ok ((start.after before).promised (((start.after before).current key now).1.failures + 1)) ∧
      ¬ (start.after before).Evicts now key := by
  subst hcall
  refine ⟨ProgressiveDelay.wait_of_le ?_, hroom before now key rest rfl⟩
  rw [hsame.free]
  exact hfit before now key rest _ now rfl (streakOf_failure hsame (hnow key))

/-- What is stored after a run whose counts fit. -/
theorem stores_after (hempty : start.state = Dict.empty)
    (hsorted : (calls.map (·.1)).Pairwise (· ≤ ·)) (hroom : NoEvictions start calls)
    (hfit : CountsFit start calls) :
    start.SameParameters (start.after calls) ∧
      ∀ latest, (∀ call ∈ calls, call.1 ≤ latest) → ∀ key,
        Stores (start.after calls) latest key (streakOf start.forget key calls) := by
  induction calls using List.reverseRecOn with
  | nil =>
      refine ⟨⟨rfl, rfl, rfl, rfl, rfl⟩, fun latest _ key => .none ?_⟩
      change start.state.get? key = none
      rw [hempty, Dict.get?_empty]
  | append_singleton before call ih =>
      obtain ⟨now, call⟩ := call
      have hbefore : (before.map (·.1)).Pairwise (· ≤ ·) := by
        rw [List.map_append, List.pairwise_append] at hsorted
        exact hsorted.1
      obtain ⟨hsame, hstores⟩ := ih hbefore hroom.before hfit.before
      have hnow (key : String) := hstores now (times_le_of_sorted hsorted) key
      have hcounts := counted_of_fit hsame hnow hroom hfit
      have hstep (key : String) := ProgressiveDelay.stores_call (hnow key) le_rfl hcounts
      obtain ⟨-, hsame', -⟩ := hstep ""
      refine ⟨?_, fun latest hlatest key => ?_⟩
      · rw [after_concat]
        exact hsame.trans hsame'
      · obtain ⟨hstored, -, -⟩ := hstep key
        rw [after_concat, streakOf_concat]
        rw [hsame.forget] at hstored
        exact ProgressiveDelay.stores_later hstored (hlatest (now, call) (by simp))

theorem sorted_before {κ : Type} {before rest : List (ℚ × κ)}
    (h : ((before ++ rest).map (·.1)).Pairwise (· ≤ ·)) : (before.map (·.1)).Pairwise (· ≤ ·) := by
  rw [List.map_append, List.pairwise_append] at h
  exact h.1

/-- A key whose failures fit waits as long as promised. -/
theorem delayFor_of_stores {throttle : ProgressiveDelay} {now last : ℚ} {key : String} {failures : Nat}
    (h : Stores throttle now key (some (failures, last))) (hnow : now ≤ last + throttle.forget) :
    (throttle.delayFor key now).1 = max 0 (last + throttle.promised failures - now) := by
  unfold ProgressiveDelay.delayFor ProgressiveDelay.current
  cases h with
  | failures h =>
      rw [h]
      dsimp only
      rw [if_neg (by linarith)]
  | forgotten h hlong => exact absurd hlong (by linarith)

theorem waits_of_countsFit (hempty : start.state = Dict.empty)
    (hsorted : (calls.map (·.1)).Pairwise (· ≤ ·)) (hroom : NoEvictions start calls)
    (hfit : CountsFit start calls) : WaitsAsPromised start calls := by
  constructor
  · rintro before now call rest rfl
    obtain ⟨hsame, hstores⟩ := stores_after hempty (sorted_before hsorted) hroom.before hfit.before
    have hnow := hstores now (times_le_of_sorted hsorted)
    have hcounts := counted_of_fit hsame hnow hroom hfit
    obtain ⟨-, -, hok⟩ := ProgressiveDelay.stores_call (hnow "") le_rfl hcounts
    exact hok
  · rintro before rest key failures last now rfl hstreak hlatest hnow
    obtain ⟨hsame, hstores⟩ := stores_after hempty (sorted_before hsorted) hroom.before hfit.before
    have hstored := hstores now hlatest key
    rw [hstreak] at hstored
    rw [delayFor_of_stores hstored (by rw [hsame.forget]; exact hnow), hsame.promised]

/-- If every call returns, the counts fit: the first that does not would raise. -/
theorem countsFit_of_returns (hempty : start.state = Dict.empty)
    (hsorted : (calls.map (·.1)).Pairwise (· ≤ ·)) (hroom : NoEvictions start calls)
    (hreturns : ∀ before now call rest, calls = before ++ (now, call) :: rest →
      ∃ value, ((start.after before).call now call).1 = .ok value) : CountsFit start calls := by
  induction calls using List.reverseRecOn with
  | nil =>
      intro before now key rest failures last hsplit
      exact absurd hsplit.symm (by simp)
  | append_singleton earlier call ih =>
      have hfit : CountsFit start earlier := by
        refine ih (sorted_before hsorted) hroom.before fun before now call' rest hsplit => ?_
        refine hreturns before now call' (rest ++ [call]) ?_
        rw [hsplit, List.append_assoc, List.cons_append]
      refine hfit.concat ?_
      rintro now key failures last rfl hstreak
      obtain ⟨hsame, hstores⟩ := stores_after hempty (sorted_before hsorted) hroom.before hfit
      have hnow := hstores now (times_le_of_sorted hsorted) key
      rw [streakOf_failure hsame hnow] at hstreak
      obtain ⟨rfl, rfl⟩ := Prod.mk.inj (Option.some_inj.mp hstreak)
      obtain ⟨value, hvalue⟩ := hreturns earlier now (.failure key) [] rfl
      rw [← hsame.free, ← ProgressiveDelay.wait_eq_ok_iff]
      cases hwait : (start.after earlier).wait
          (((start.after earlier).current key now).1.failures + 1) with
      | ok wait => exact ⟨wait, rfl⟩
      | error error =>
          have hraise := ProgressiveDelay.failure_of_overflow hwait
          rw [ProgressiveDelay.call, hraise] at hvalue
          cases hvalue

/-! ### Short runs -/

theorem ProgressiveDelay.size_current_le (throttle : ProgressiveDelay) (key : String) (now : ℚ) :
    (throttle.current key now).2.state.size ≤ throttle.state.size := by
  unfold current
  split
  · split
    · exact Dict.size_erase_le _ _
    · exact le_rfl
  · exact le_rfl

/-- A call stores at most one key more. -/
theorem ProgressiveDelay.size_call_le (throttle : ProgressiveDelay) (now : ℚ) (call : DelayCall) :
    (throttle.call now call).2.state.size ≤ throttle.state.size + 1 := by
  cases call with
  | success key => exact (Dict.size_erase_le _ _).trans (Nat.le_succ _)
  | delayFor key => exact (size_current_le _ _ _).trans (Nat.le_succ _)
  | failure key =>
      have hcurrent := size_current_le throttle key now
      change (throttle.failure key now).2.state.size ≤ _
      unfold failure
      generalize throttle.current key now = found at hcurrent ⊢
      obtain ⟨found, after⟩ := found
      dsimp only at hcurrent ⊢
      split
      · exact hcurrent.trans (Nat.le_succ _)
      · have hset (room : Dict String DelayState) (hroom : room.size ≤ after.state.size)
            (value : DelayState) : (room.set key value).size ≤ throttle.state.size + 1 := by
          rw [Dict.size_set]
          split <;> omega
        have hpop := Dict.size_popFirst after.state
        dsimp only
        rw [Dict.size_moveToEnd]
        refine hset _ ?_ _
        split <;> omega

theorem size_after_le (hempty : start.state = Dict.empty) (calls : List (ℚ × DelayCall)) :
    (start.after calls).state.size ≤ calls.length := by
  induction calls using List.reverseRecOn with
  | nil =>
      change start.state.size ≤ 0
      rw [hempty]
      exact le_rfl
  | append_singleton before call ih =>
      rw [after_concat, List.length_append, List.length_singleton]
      exact (ProgressiveDelay.size_call_le _ _ _).trans (Nat.succ_le_succ ih)

/-- A run of no more calls than there is room for keys needs no room. -/
theorem noEvictions_of_length_le (hempty : start.state = Dict.empty)
    (hfew : calls.length ≤ start.maxKeys) : NoEvictions start calls := by
  rintro before now key rest rfl ⟨-, hfull⟩
  have hsize := (ProgressiveDelay.size_current_le _ key now).trans (size_after_le hempty before)
  rw [(ProgressiveDelay.after_same start before).maxKeys] at hfull
  rw [List.length_append, List.length_cons] at hfew
  omega

theorem recentFailures_le {forget now : ℚ} {streak : Option (Nat × ℚ)} {count : Nat}
    (h : ∀ failures last, streak = some (failures, last) → failures ≤ count) :
    recentFailures forget now streak ≤ count := by
  cases streak with
  | none => exact Nat.zero_le _
  | some streak =>
      obtain ⟨failures, last⟩ := streak
      rw [recentFailures]
      split
      · exact h failures last rfl
      · exact Nat.zero_le _

theorem streakOf_le_length {forget : ℚ} {key : String} {failures : Nat} {last : ℚ}
    (h : streakOf forget key calls = some (failures, last)) : failures ≤ calls.length := by
  induction calls using List.reverseRecOn generalizing failures last with
  | nil => cases h
  | append_singleton before call ih =>
      rw [List.length_append, List.length_singleton]
      rw [streakOf_concat] at h
      obtain ⟨now, call⟩ := call
      cases call with
      | failure key' =>
          rw [nextStreak] at h
          split at h
          · obtain ⟨rfl, -⟩ := Prod.mk.inj (Option.some_inj.mp h)
            exact Nat.succ_le_succ (recentFailures_le fun _ _ => ih)
          · exact (ih h).trans (Nat.le_succ _)
      | success key' =>
          rw [nextStreak] at h
          split at h
          · cases h
          · exact (ih h).trans (Nat.le_succ _)
      | delayFor key' => exact (ih h).trans (Nat.le_succ _)

/-- The counts of a short run fit. -/
theorem countsFit_of_length_le (hfew : calls.length ≤ start.free + 1024) : CountsFit start calls := by
  rintro before now key rest failures last rfl hstreak
  have hle := streakOf_le_length hstreak
  rw [List.length_append, List.length_cons] at hle hfew
  rw [List.length_nil] at hle
  omega

/-! ### Runs -/

/-- A run of calls in order, with room for every key: every call returns and every wait is as promised
if and only if no key fails more than 1024 times in a row beyond its free attempts. -/
theorem waits_as_promised_iff (hempty : start.state = Dict.empty)
    (hsorted : (calls.map (·.1)).Pairwise (· ≤ ·)) (hroom : NoEvictions start calls) :
    WaitsAsPromised start calls ↔ CountsFit start calls :=
  ⟨fun hwaits => countsFit_of_returns hempty hsorted hroom hwaits.returns,
    waits_of_countsFit hempty hsorted hroom⟩

/-- A phone goes past its free attempts, a laptop fails once, and then the phone has its password. -/
def phoneCalls : List (ℚ × DelayCall) :=
  [(0, .failure "phone"), (1, .failure "phone"), (2, .failure "phone"), (3, .failure "phone"),
    (4, .failure "laptop"), (5, .failure "phone"), (6, .delayFor "phone"), (8, .success "phone"),
    (9, .failure "phone")]

theorem waits_as_promised_iff_phone :
    (WaitsAsPromised {} phoneCalls ↔ CountsFit {} phoneCalls) ∧
      ((({} : ProgressiveDelay).after (phoneCalls.take 6)).delayFor "phone" 6).1 = 1 ∧
      ((({} : ProgressiveDelay).after phoneCalls).delayFor "phone" 9).1 = 0 := by
  have hroom : NoEvictions {} phoneCalls := noEvictions_of_length_le rfl (by decide)
  have hiff : WaitsAsPromised {} phoneCalls ↔ CountsFit {} phoneCalls :=
    waits_as_promised_iff rfl (by decide +kernel) hroom
  have hwaits := hiff.mpr (countsFit_of_length_le (by decide))
  refine ⟨hiff, ?_, ?_⟩
  · rw [hwaits.waits (phoneCalls.take 6) (phoneCalls.drop 6) "phone" 5 5 6 (List.take_append_drop 6 _).symm
      (by decide +kernel) (by decide +kernel) (by decide +kernel)]
    decide +kernel
  · rw [hwaits.waits phoneCalls [] "phone" 1 9 9 (List.append_nil _).symm
      (by decide +kernel) (by decide +kernel) (by decide +kernel)]
    decide +kernel

/-! ### A device with an old password -/

theorem streakOf_replicate (forget : ℚ) (hforget : 0 ≤ forget) (now : ℚ) (key : String) (count : Nat) :
    streakOf forget key (List.replicate (count + 1) (now, .failure key)) = some (count + 1, now) := by
  induction count with
  | zero => simp [streakOf, nextStreak, recentFailures]
  | succ count ih =>
      rw [List.replicate_succ', streakOf_concat, ih]
      simp [nextStreak, recentFailures, hforget]

/-- A device that keeps trying an old password: its failure number 1028 in a row raises. -/
theorem retries_overflow :
    let calls : List (ℚ × DelayCall) := List.replicate 1028 (0, .failure "phone")
    ({} : ProgressiveDelay).state = Dict.empty ∧ (calls.map (·.1)).Pairwise (· ≤ ·) ∧
      NoEvictions {} calls ∧ ¬ WaitsAsPromised {} calls := by
  intro calls
  have hsorted : (calls.map (·.1)).Pairwise (· ≤ ·) := by
    rw [List.map_replicate]
    exact List.pairwise_replicate.mpr (.inr le_rfl)
  have hroom : NoEvictions {} calls :=
    noEvictions_of_length_le rfl (by rw [List.length_replicate]; decide)
  refine ⟨rfl, hsorted, hroom, fun hwaits => ?_⟩
  have hfit := countsFit_of_returns rfl hsorted hroom hwaits.returns
  have hlast : calls = List.replicate 1027 (0, .failure "phone") ++ [(0, .failure "phone")] :=
    List.replicate_succ'
  have hcount := hfit _ 0 "phone" [] 1028 0 hlast (by
    rw [← hlast]
    exact streakOf_replicate _ (by norm_num) 0 "phone" 1027)
  exact absurd hcount (by decide)

end

end Naco
