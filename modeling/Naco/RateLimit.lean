import Naco.Lib.Dict
import Naco.Lib.Python
import Mathlib.Algebra.Order.Ring.Rat

/-!
# In-memory throttling

Readings of the monotonic clock, and the waits computed from them, are rationals: seconds. A wait is a
float in the source, so the doubling ends in `OverflowError` once `2 ** n` no longer fits in one. Calls
that change a throttle return the changed throttle, also when they raise.
-/

namespace Naco

open Py

/-! ### Sliding window -/

/-- At most `limit` hits per `window` seconds and key. -/
structure SlidingWindow where
  limit : Nat
  window : ℚ
  maxKeys : Nat := 50000
  hits : Dict String (List ℚ) := Dict.empty

namespace SlidingWindow

/-- Records a hit; `false`, and nothing recorded, when over the limit. -/
def hit (throttle : SlidingWindow) (key : String) (now : ℚ) : Bool × SlidingWindow :=
  let hits := match throttle.hits.get? key with
    | some _ => throttle.hits.moveToEnd key
    | none =>
        let hits := if throttle.maxKeys ≤ throttle.hits.size then throttle.hits.popFirst
          else throttle.hits
        hits.set key []
  let recent := ((hits.get? key).getD []).dropWhile (· ≤ now - throttle.window)
  if throttle.limit ≤ recent.length then
    (false, { throttle with hits := hits.set key recent })
  else
    (true, { throttle with hits := hits.set key (recent ++ [now]) })

def reset (throttle : SlidingWindow) (key : String) : SlidingWindow :=
  { throttle with hits := throttle.hits.erase key }

end SlidingWindow

/-! ### Progressive delay -/

/-- The failures of a key, when it may try again, and when it last failed. -/
structure DelayState where
  failures : Nat
  nextAllowed : ℚ
  last : ℚ
  deriving DecidableEq

structure ProgressiveDelay where
  base : ℚ := 1
  cap : ℚ := 30
  free : Nat := 3
  forget : ℚ := 900
  maxKeys : Nat := 50000
  state : Dict String DelayState := Dict.empty

namespace ProgressiveDelay

/-- `_get`, which forgets a key whose last failure is long ago. -/
def current (throttle : ProgressiveDelay) (key : String) (now : ℚ) :
    DelayState × ProgressiveDelay :=
  match throttle.state.get? key with
  | some found =>
      if throttle.forget < now - found.last then
        (⟨0, 0, now⟩, { throttle with state := throttle.state.erase key })
      else
        (found, throttle)
  | none => (⟨0, 0, now⟩, throttle)

def delayFor (throttle : ProgressiveDelay) (key : String) (now : ℚ) : ℚ × ProgressiveDelay :=
  let (found, throttle) := throttle.current key now
  (max 0 (found.nextAllowed - now), throttle)

/-- The wait after so many failures. `float * int` raises for an `int` from `2 ** 1024` on. -/
def wait (throttle : ProgressiveDelay) (failures : Nat) : Except Error ℚ :=
  if failures ≤ throttle.free then .ok 0
  else if failures - throttle.free - 1 < 1024 then
    .ok (min throttle.cap (throttle.base * 2 ^ (failures - throttle.free - 1)))
  else .error (.overflowError "int too large to convert to float")

def failure (throttle : ProgressiveDelay) (key : String) (now : ℚ) :
    Except Error Unit × ProgressiveDelay :=
  let (found, throttle) := throttle.current key now
  match throttle.wait (found.failures + 1) with
  | .error error => (.error error, throttle)
  | .ok wait =>
      let state := if !throttle.state.contains key && throttle.maxKeys ≤ throttle.state.size then
        throttle.state.popFirst else throttle.state
      let state := (state.set key ⟨found.failures + 1, now + wait, now⟩).moveToEnd key
      (.ok (), { throttle with state })

def success (throttle : ProgressiveDelay) (key : String) : ProgressiveDelay :=
  { throttle with state := throttle.state.erase key }

end ProgressiveDelay

/-! ### Guess guard -/

/-- Slows guessing per identity and source; failures from `spread` sources slow the identity down
everywhere. -/
structure GuessGuard where
  pair : ProgressiveDelay
  identity : ProgressiveDelay
  sources : Dict String (Dict String ℚ) := Dict.empty
  spread : Nat
  window : ℚ
  maxKeys : Nat

namespace GuessGuard

/-- `GuessGuard(free_attempts=…)`. -/
def new (freeAttempts : Nat := 5) (cap : ℚ := 30) (spread : Nat := 10) (window : ℚ := 900)
    (maxKeys : Nat := 50000) : GuessGuard where
  pair := { base := 1, cap, free := freeAttempts, forget := window, maxKeys }
  identity := { base := 1, cap, free := 0, forget := window, maxKeys }
  spread
  window
  maxKeys

def pairKey (identity source : String) : String :=
  identity ++ "\x00" ++ source

/-- `_failing_sources`: the sources of an identity, less those whose failure is long ago. -/
def failingSources (guard : GuessGuard) (identity : String) (now : ℚ) :
    Dict String ℚ × GuessGuard :=
  match guard.sources.get? identity with
  | none => (Dict.empty, guard)
  | some sources =>
      let stale := sources.items.filter fun item => decide (guard.window < now - item.2)
      let sources := stale.foldl (fun sources item => sources.erase item.1) sources
      (sources, { guard with sources := guard.sources.set identity sources })

def delayFor (guard : GuessGuard) (identity source : String) (now : ℚ) : ℚ × GuessGuard :=
  let (wait, pair) := guard.pair.delayFor (pairKey identity source) now
  let (sources, guard) := { guard with pair }.failingSources identity now
  if guard.spread ≤ sources.size then
    let (everywhere, delay) := guard.identity.delayFor identity now
    (max wait everywhere, { guard with identity := delay })
  else
    (wait, guard)

/-- The key of the oldest failure, the first of equals. -/
def oldestSource (sources : Dict String ℚ) : Option String :=
  (sources.items.foldl (fun best item =>
    match best with
    | none => some item
    | some found => if item.2 < found.2 then some item else best) none).map (·.1)

def failure (guard : GuessGuard) (identity source : String) (now : ℚ) :
    Except Error Unit × GuessGuard :=
  let (result, pair) := guard.pair.failure (pairKey identity source) now
  let guard := { guard with pair }
  match result with
  | .error error => (.error error, guard)
  | .ok () =>
      let (sources, guard) := guard.failingSources identity now
      let all := if !guard.sources.contains identity && guard.maxKeys ≤ guard.sources.size then
        guard.sources.popFirst else guard.sources
      let sources := sources.set source now
      let sources := if guard.spread * 4 < sources.size then
        ((oldestSource sources).map sources.erase).getD sources else sources
      let guard := { guard with sources := (all.set identity sources).moveToEnd identity }
      if guard.spread ≤ sources.size then
        let (result, delay) := guard.identity.failure identity now
        (result, { guard with identity := delay })
      else
        (.ok (), guard)

def success (guard : GuessGuard) (identity source : String) : GuessGuard :=
  { guard with pair := guard.pair.success (pairKey identity source) }

end GuessGuard

end Naco
