import Naco.Proof.Verified
import Mathlib.Tactic.Linarith

/-!
# Slowing down guesses

The guard is asked before the password is checked and told afterwards, and the check takes as long as
bcrypt or the directory. Six guesses in a row from one source are let through within a second, and no
seventh; guesses that are in the check at the same time are not counted yet, and all of them pass.
-/

namespace Naco

open Py

/-! ### A guard that has counted failures of one source -/

/-- The wait after so many failures in a row, of which five are free and the sixth costs a second. -/
def waitAfter (failures : Nat) : ℚ :=
  if failures ≤ 5 then 0 else 1

/-- The guard after so many failures of one identity from one source, the last of them at `last`. -/
def guardAfter (identity source : String) (last : ℚ) : Nat → GuessGuard
  | 0 => .new
  | failures + 1 =>
      { GuessGuard.new with
        pair := { GuessGuard.new.pair with
          state := .single (GuessGuard.pairKey identity source)
            ⟨failures + 1, last + waitAfter (failures + 1), last⟩ }
        sources := .single identity (.single source last) }

variable {identity source : String} {last now : ℚ}

theorem failingSources_single {guard : GuessGuard}
    (hsources : guard.sources = .single identity (.single source last))
    (hnow : now - last ≤ guard.window) :
    guard.failingSources identity now = (.single source last, guard) := by
  have hstale : (Dict.single source last).items.filter
      (fun item => decide (guard.window < now - item.2)) = [] := by
    simpa [Dict.single] using hnow
  rw [GuessGuard.failingSources, hsources, Dict.get?_single]
  dsimp only
  rw [hstale, List.foldl_nil, Dict.set_single, ← hsources]

theorem current_single {throttle : ProgressiveDelay} {key : String} {found : DelayState}
    (hstate : throttle.state = .single key found) (hnow : now - found.last ≤ throttle.forget) :
    throttle.current key now = (found, throttle) := by
  rw [ProgressiveDelay.current, hstate, Dict.get?_single]
  exact if_neg (not_lt.mpr hnow)

/-- Asking does not change the guard, and five failures do not cost a wait. -/
theorem delayFor_guardAfter (hnow : now - last ≤ 900) (failures : Nat) :
    (guardAfter identity source last failures).delayFor identity source now =
      (max 0 ((if failures = 0 then 0 else last + waitAfter failures) - now),
        guardAfter identity source last failures) := by
  cases failures with
  | zero => rfl
  | succ failures =>
      have hpair := @current_single now (guardAfter identity source last (failures + 1)).pair
        (GuessGuard.pairKey identity source) _ rfl hnow
      have hsources := @failingSources_single identity source last now
        (guardAfter identity source last (failures + 1)) rfl hnow
      simp only [GuessGuard.delayFor, ProgressiveDelay.delayFor, hpair, hsources]
      rfl

theorem wait_eq {throttle : ProgressiveDelay} (hfree : throttle.free = 5) (hbase : throttle.base = 1)
    (hcap : throttle.cap = 30) {failures : Nat} (hfew : failures ≤ 6) :
    throttle.wait failures = .ok (waitAfter failures) := by
  unfold ProgressiveDelay.wait waitAfter
  rw [hfree, hbase, hcap]
  by_cases hfree : failures ≤ 5
  · rw [if_pos hfree, if_pos hfree]
  · obtain rfl : failures = 6 := by omega
    norm_num

theorem failure_pair (hnow : now - last ≤ 900) {failures : Nat} (hfew : failures ≤ 5) :
    (guardAfter identity source last failures).pair.failure (GuessGuard.pairKey identity source) now =
      (.ok (), (guardAfter identity source now (failures + 1)).pair) := by
  cases failures with
  | zero =>
      have hwait := @wait_eq GuessGuard.new.pair rfl rfl rfl 1 (by omega)
      have hcurrent : (guardAfter identity source last 0).pair.current
          (GuessGuard.pairKey identity source) now = (⟨0, 0, now⟩, GuessGuard.new.pair) := rfl
      have hstate : GuessGuard.new.pair.state = Dict.empty := rfl
      have hempty : ¬ GuessGuard.new.pair.maxKeys ≤ (Dict.empty : Dict String DelayState).size := by
        decide
      rw [ProgressiveDelay.failure, hcurrent]
      dsimp only
      rw [Nat.zero_add, hwait, hstate]
      simp only [hempty, decide_false, Bool.and_false, Bool.false_eq_true, if_false, Dict.set_empty,
        Dict.moveToEnd_single]
      rfl
  | succ failures =>
      have hwait := @wait_eq (guardAfter identity source last (failures + 1)).pair rfl rfl rfl
        (failures + 2) (by omega)
      have hcurrent := @current_single now (guardAfter identity source last (failures + 1)).pair
        (GuessGuard.pairKey identity source) _ rfl hnow
      have hstate : (guardAfter identity source last (failures + 1)).pair.state =
        .single (GuessGuard.pairKey identity source)
          ⟨failures + 1, last + waitAfter (failures + 1), last⟩ := rfl
      rw [ProgressiveDelay.failure, hcurrent]
      dsimp only
      rw [hwait, hstate]
      simp only [Dict.contains_single, Bool.not_true, Bool.false_and, Bool.false_eq_true, if_false,
        Dict.set_single, Dict.moveToEnd_single]
      rfl

/-- A failure is counted, and one source is not a spread. -/
theorem failure_guardAfter (hnow : now - last ≤ 900) {failures : Nat} (hfew : failures ≤ 5) :
    (guardAfter identity source last failures).failure identity source now =
      (.ok (), guardAfter identity source now (failures + 1)) := by
  have hnew : GuessGuard.new.spread = 10 := rfl
  have hcut : ¬ 10 * 4 < (Dict.single source now).size := by simp
  have hspread : ¬ 10 ≤ (Dict.single source now).size := by simp
  rw [GuessGuard.failure, failure_pair hnow hfew]
  dsimp only
  cases failures with
  | zero =>
      have hsources : ({ guardAfter identity source last 0 with
          pair := (guardAfter identity source now 1).pair } : GuessGuard).failingSources identity now =
          (Dict.empty, { guardAfter identity source last 0 with
            pair := (guardAfter identity source now 1).pair }) := rfl
      have hnone : GuessGuard.new.sources = Dict.empty := rfl
      have hempty : ¬ GuessGuard.new.maxKeys ≤ (Dict.empty : Dict String (Dict String ℚ)).size := by
        decide
      rw [hsources]
      simp only [guardAfter, hnone, hempty, decide_false, Bool.and_false, Bool.false_eq_true, if_false,
        Dict.set_empty, Dict.moveToEnd_single, hnew, hcut, hspread]
  | succ failures =>
      have hsources := @failingSources_single identity source last now
        { guardAfter identity source last (failures + 1) with
          pair := (guardAfter identity source now (failures + 2)).pair } rfl hnow
      rw [hsources]
      simp only [guardAfter, Dict.contains_single, Bool.not_true, Bool.false_and, Bool.false_eq_true,
        if_false, Dict.set_single, Dict.moveToEnd_single, hnew, hcut, hspread]

/-! ### Guesses on the event loop -/

/-- A request with the directory as it answers then. -/
structure Guess where
  directory : Directory
  attrs : Attrs

def Guess.login (guess : Guess) : LoginInfo :=
  loginInfo guess.attrs

abbrev GuessCall := Call World Guess (Except Error Bool)
abbrev GuessLoop := Loop World Guess (Except Error Bool)

/-- The guard does not slow the request down. -/
def LetThrough (guess : Guess) (world : World) : Prop :=
  ¬ 0 < (world.guesses.delayFor guess.login.key guess.login.source world.monotonic).1

instance (guess : Guess) (world : World) : Decidable (LetThrough guess world) :=
  inferInstanceAs (Decidable (¬ _))

/-- The call got as far as `authenticate_user`: the guard let it through in its first step. -/
def Reached (guess : Guess) (seen : List (Moment World)) : Prop :=
  ∃ first ∈ seen.getLast?, LetThrough guess first.state

instance (guess : Guess) (seen : List (Moment World)) : Decidable (Reached guess seen) :=
  decidable_of_iff (seen.getLast?.any fun first => decide (LetThrough guess first.state)) (by
    cases hlast : seen.getLast? <;> simp [Reached, hlast])

/-- The number of calls, in progress or returned, that got as far as `authenticate_user`. -/
def reachedCount (loop : GuessLoop) : Nat :=
  loop.calls.countP (fun call => Reached call.request call.seen) +
    loop.returned.countP fun ret => Reached ret.request ret.seen

section

variable (platform : Platform) (creds : Credentials)

def Guess.body (guess : Guess) : Coroutine World (Except Error Bool) :=
  authenticate platform creds guess.directory guess.attrs

def Guess.slowedDown (guess : Guess) : Coroutine World (Except Error Bool) :=
  rejectCredentials platform guess.login.req guess.login.method guess.login.key
    "too many failed attempts — slowed down"

/-- The call was let through, and `authenticate_user` is in progress or has just returned: its result
is yet to be counted. -/
def InCheck (call : GuessCall) : Prop :=
  Reached call.request call.seen ∧ ∃ check : Coroutine Database IdentityResult,
    call.rest = check.zoom World.db (fun world db => { world with db }) >>=
      settleCredentials platform call.request.login

/-- The move lets a call through while another is in its check. -/
def Overlaps (loop : GuessLoop) : Move Guess AaaEvent → Prop
  | .resume index =>
      ∃ call, loop.calls[index]? = some call ∧ call.seen = [] ∧ LetThrough call.request loop.state ∧
        ∃ other ∈ loop.calls, InCheck platform other
  | _ => False

/-! ### What one move does -/

/-- The call has not asked the guard yet, or it is about to be refused, or its failure is counted. -/
inductive Quiet (request : Guess) (seen : List (Moment World))
    (rest : Coroutine World (Except Error Bool)) : Prop
  | fresh (hseen : seen = []) (hrest : rest = request.body platform creds)
  | refused (hseen : seen ≠ []) (hreached : ¬ Reached request seen)
      (hrest : rest = request.slowedDown platform)
  | counted (hreached : Reached request seen) (username reason : String)
      (hrest : rest = rejectCredentials platform request.login.req request.login.method username reason)

def IsQuiet (call : GuessCall) : Prop :=
  Quiet platform creds call.request call.seen call.rest

end

variable {platform : Platform} {creds : Credentials} {loop : GuessLoop}

theorem reached_singleton_iff {guess : Guess} {first : Moment World} :
    Reached guess [first] ↔ LetThrough guess first.state := by
  simp [Reached]

theorem reached_cons_iff {guess : Guess} {moment : Moment World} {seen : List (Moment World)}
    (hseen : seen ≠ []) : Reached guess (moment :: seen) ↔ Reached guess seen := by
  obtain ⟨first, rest, rfl⟩ := List.exists_cons_of_ne_nil hseen
  rw [Reached, Reached, List.getLast?_cons_cons]

theorem ne_nil_of_reached {guess : Guess} {seen : List (Moment World)} (h : Reached guess seen) :
    seen ≠ [] := by
  rintro rfl
  obtain ⟨first, hfirst, -⟩ := h
  cases hfirst

theorem reachedCount_finish {before after : List GuessCall} {call : GuessCall}
    (hcalls : loop.calls = before ++ call :: after) (world : World) (result : Except Error Bool) :
    reachedCount (loop.finish before.length call world result) = reachedCount loop := by
  rw [reachedCount, reachedCount, Loop.calls_finish hcalls, hcalls]
  simp only [Loop.finish, List.countP_append, List.countP_cons]
  omega

theorem reachedCount_pause {before after : List GuessCall} {call : GuessCall}
    (hcalls : loop.calls = before ++ call :: after) (world : World)
    (rest : Coroutine World (Except Error Bool)) :
    reachedCount (loop.pause before.length call world rest) +
        (if Reached call.request call.seen then 1 else 0) =
      reachedCount loop + if Reached call.request (loop.now :: call.seen) then 1 else 0 := by
  rw [reachedCount, reachedCount, Loop.calls_pause hcalls, hcalls]
  simp only [Loop.pause, List.countP_append, List.countP_cons, decide_eq_true_eq]
  omega

theorem settleCredentials_ne_done (login : LoginInfo) (result : IdentityResult)
    (answer : Except Error Bool) : settleCredentials platform login result ≠ .done answer := by
  unfold settleCredentials
  split <;> exact fun h => by cases h

theorem check_ne_done (check : Coroutine Database IdentityResult) (login : LoginInfo)
    (answer : Except Error Bool) :
    check.zoom World.db (fun world db => { world with db }) >>= settleCredentials platform login ≠
      .done answer := by
  cases check with
  | done result => exact settleCredentials_ne_done login result answer
  | step update next => exact fun h => by cases h

theorem body_eq (guess : Guess) :
    guess.body platform creds = .step
      (fun world => { world with
        guesses := (world.guesses.delayFor guess.login.key guess.login.source world.monotonic).2 })
      fun world =>
        if LetThrough guess world then
          (authenticateUser creds guess.directory guess.login.rawName
            ((guess.attrs.get "User-Password").getD "")).zoom World.db
              (fun world db => { world with db }) >>= settleCredentials platform guess.login
        else guess.slowedDown platform := by
  have hbody : guess.body platform creds = .step
      (fun world => { world with
        guesses := (world.guesses.delayFor guess.login.key guess.login.source world.monotonic).2 })
      fun world =>
        if 0 < (world.guesses.delayFor guess.login.key guess.login.source world.monotonic).1 then
          guess.slowedDown platform
        else
          (authenticateUser creds guess.directory guess.login.rawName
            ((guess.attrs.get "User-Password").getD "")).zoom World.db
              (fun world db => { world with db }) >>= settleCredentials platform guess.login := rfl
  rw [hbody]
  congr 1
  funext world
  by_cases hslow : 0 < (world.guesses.delayFor guess.login.key guess.login.source world.monotonic).1
  · rw [if_pos hslow, if_neg fun hpass : LetThrough guess world => hpass hslow]
  · rw [if_neg hslow, if_pos (show LetThrough guess world from hslow)]

/-- A fresh call asks the guard, which stays as it is. -/
theorem advance_fresh {call : GuessCall} (hrest : call.rest = call.request.body platform creds)
    (hguard : (loop.state.guesses.delayFor call.request.login.key call.request.login.source
      loop.state.monotonic).2 = loop.state.guesses) (index : Nat) :
    (LetThrough call.request loop.state ∧ ∃ check : Coroutine Database IdentityResult,
        loop.advance index call = loop.pause index call loop.state
          (check.zoom World.db (fun world db => { world with db }) >>=
            settleCredentials platform call.request.login)) ∨
      (¬ LetThrough call.request loop.state ∧
        loop.advance index call = loop.pause index call loop.state (call.request.slowedDown platform)) := by
  rw [body_eq] at hrest
  by_cases hpass : LetThrough call.request loop.state
  · refine .inl ⟨hpass, authenticateUser creds call.request.directory call.request.login.rawName
      ((call.request.attrs.get "User-Password").getD ""), ?_⟩
    rw [Loop.advance_of_step hrest, if_pos hpass, hguard]
    intro result
    rw [if_pos hpass]
    exact check_ne_done _ _ result
  · refine .inr ⟨hpass, ?_⟩
    rw [Loop.advance_of_step hrest, if_neg hpass, hguard]
    intro result
    rw [if_neg hpass]
    exact fun h => by cases h

/-- A rejection is the last step, and leaves the guard and the clock alone. -/
theorem advance_reject {call : GuessCall} {username reason : String}
    (hrest : call.rest = rejectCredentials platform call.request.login.req call.request.login.method
      username reason) (index : Nat) :
    ∃ world : World, world.guesses = loop.state.guesses ∧ world.monotonic = loop.state.monotonic ∧
      loop.advance index call = loop.finish index call world (call.rest.runAlone loop.state).1 := by
  refine ⟨(call.rest.runAlone loop.state).2, ?_, ?_, Loop.advance_atomic hrest index⟩
  · rw [hrest]
    simp only [rejectCredentials, Coroutine.atomic, Coroutine.runAlone]
    split <;> rfl
  · rw [hrest]
    simp only [rejectCredentials, Coroutine.atomic, Coroutine.runAlone]
    split <;> rfl

theorem advance_check {call : GuessCall} (hcheck : InCheck platform call) {last : ℚ} {failures : Nat}
    (hguard : loop.state.guesses =
      guardAfter call.request.login.key call.request.login.source last failures)
    (hnow : loop.state.monotonic - last ≤ 900) (hfew : failures ≤ 5) (index : Nat) :
    (∃ (world : World) (check : Coroutine Database IdentityResult),
        world.guesses = loop.state.guesses ∧ world.monotonic = loop.state.monotonic ∧
        loop.advance index call = loop.pause index call world
          (check.zoom World.db (fun world db => { world with db }) >>=
            settleCredentials platform call.request.login)) ∨
      (∃ world, loop.advance index call = loop.finish index call world (.ok true)) ∨
      ∃ username reason, loop.advance index call = loop.pause index call
        { loop.state with
          guesses := guardAfter call.request.login.key call.request.login.source loop.state.monotonic
            (failures + 1) }
        (rejectCredentials platform call.request.login.req call.request.login.method username
          reason) := by
  obtain ⟨-, check, hrest⟩ := hcheck
  cases check with
  | step update next =>
      refine .inl ⟨{ loop.state with db := update loop.state.db }, next loop.state.db, rfl, rfl, ?_⟩
      exact Loop.advance_of_step hrest (fun result => check_ne_done _ _ result) index
  | done result =>
      have hsettle : call.rest = settleCredentials platform call.request.login result := hrest
      cases hok : result.ok with
      | true =>
          rw [settleCredentials, if_pos hok] at hsettle
          exact .inr (.inl ⟨_, Loop.advance_of_last hsettle rfl index⟩)
      | false =>
          have hfailure := @failure_guardAfter call.request.login.key call.request.login.source last
            loop.state.monotonic hnow failures hfew
          rw [settleCredentials, if_neg (by simp [hok]), withGuesses, Coroutine.atomic,
            Coroutine.step_bind] at hsettle
          refine .inr (.inr ⟨result.username, result.reason, ?_⟩)
          rw [Loop.advance_of_step hsettle] <;>
            simp only [Coroutine.done_bind, hguard, hfailure]
          exact fun answer h => by cases h

/-! ### The count -/

/-- At most one call is in its check, and the calls let through are those counted and that one. -/
structure Tally (platform : Platform) (creds : Credentials) (loop : GuessLoop) (failures : Nat)
    (checking quiet : List GuessCall) : Prop where
  perm : loop.calls.Perm (checking ++ quiet)
  isQuiet : ∀ call ∈ quiet, IsQuiet platform creds call
  inCheck : ∀ call ∈ checking, InCheck platform call
  few : failures + checking.length ≤ 6
  alone : checking.length ≤ 1
  count : reachedCount loop = failures + checking.length

/-- What holds of the loop between two moves: the guard has counted `failures`, since `since`. -/
structure Counted (platform : Platform) (creds : Credentials) (identity source : String) (since : ℚ)
    (loop : GuessLoop) (failures : Nat) (last : ℚ) : Prop where
  guard : loop.state.guesses = guardAfter identity source last failures
  started : since ≤ last
  past : last ≤ loop.state.monotonic
  same : ∀ call ∈ loop.calls,
    call.request.login.key = identity ∧ call.request.login.source = source
  refusals : ∀ ret ∈ loop.returned, ¬ Reached ret.request ret.seen →
    ret.result = ((ret.request.slowedDown platform).runAlone ret.moment.state).1
  tally : ∃ checking quiet, Tally platform creds loop failures checking quiet

theorem perm_of_split {α : Type} {before after left right : List α} {x : α}
    (h : (before ++ x :: after).Perm (left ++ right)) :
    (∃ left' left'', left = left' ++ x :: left'' ∧
        (before ++ after).Perm (left' ++ left'' ++ right)) ∨
      ∃ right' right'', right = right' ++ x :: right'' ∧
        (before ++ after).Perm (left ++ (right' ++ right'')) := by
  have hmiddle : (x :: (before ++ after)).Perm (left ++ right) := List.perm_middle.symm.trans h
  rcases List.mem_append.mp (hmiddle.subset (List.mem_cons_self)) with hmem | hmem
  · obtain ⟨left', left'', rfl⟩ := List.append_of_mem hmem
    refine .inl ⟨left', left'', rfl, ?_⟩
    have hperm : (left' ++ x :: left'' ++ right).Perm (x :: (left' ++ left'' ++ right)) :=
      (List.perm_middle.append_right right)
    exact (hmiddle.trans hperm).cons_inv
  · obtain ⟨right', right'', rfl⟩ := List.append_of_mem hmem
    refine .inr ⟨right', right'', rfl, ?_⟩
    have hperm : (left ++ (right' ++ x :: right'')).Perm (x :: (left ++ (right' ++ right''))) :=
      (List.perm_middle.append_left left).trans List.perm_middle
    exact (hmiddle.trans hperm).cons_inv

variable {since : ℚ} {failures : Nat}

/-- The guard lets a call through only if fewer than six failures are counted. -/
theorem failures_le_of_letThrough (h : Counted platform creds identity source since loop failures last)
    (htime : loop.state.monotonic < since + 1) {guess : Guess} (hkey : guess.login.key = identity)
    (hsource : guess.login.source = source) (hfew : failures ≤ 6)
    (hpass : LetThrough guess loop.state) : failures ≤ 5 := by
  by_contra hmany
  obtain rfl : failures = 6 := by omega
  have hstarted := h.started
  have hnow : loop.state.monotonic - last ≤ 900 := by linarith
  apply hpass
  rw [hkey, hsource, h.guard, delayFor_guardAfter hnow]
  have hwait : waitAfter 6 = 1 := by norm_num [waitAfter]
  simp only [hwait, OfNat.ofNat_ne_zero, if_false, lt_max_iff, lt_self_iff_false, false_or]
  linarith

section

variable {before after checking quiet : List GuessCall} {call : GuessCall}

theorem Tally.splits (h : Tally platform creds loop failures checking quiet)
    (hcalls : loop.calls = before ++ call :: after) :
    (checking = [call] ∧ (before ++ after).Perm quiet) ∨
      ∃ rest, (∀ other ∈ rest, IsQuiet platform creds other) ∧ IsQuiet platform creds call ∧
        (before ++ after).Perm (checking ++ rest) := by
  rcases perm_of_split (hcalls ▸ h.perm) with ⟨left, right, rfl, hperm⟩ | ⟨left, right, rfl, hperm⟩
  · have hone := h.alone
    rw [List.length_append, List.length_cons] at hone
    obtain rfl : left = [] := List.length_eq_zero_iff.mp (by omega)
    obtain rfl : right = [] := List.length_eq_zero_iff.mp (by omega)
    exact .inl ⟨rfl, hperm⟩
  · refine .inr ⟨left ++ right, fun other hother => h.isQuiet other ?_, h.isQuiet call (by simp), hperm⟩
    rcases List.mem_append.mp hother with hmem | hmem <;> simp [hmem]

/-- A quiet call that goes on quietly. -/
theorem Tally.pause_quiet (h : Tally platform creds loop failures checking quiet)
    (hcalls : loop.calls = before ++ call :: after) {rest : List GuessCall}
    (hrest : ∀ other ∈ rest, IsQuiet platform creds other)
    (hperm : (before ++ after).Perm (checking ++ rest)) (world : World)
    {next : Coroutine World (Except Error Bool)}
    (hnext : Quiet platform creds call.request (loop.now :: call.seen) next)
    (hreached : Reached call.request (loop.now :: call.seen) ↔ Reached call.request call.seen) :
    ∃ quiet', Tally platform creds (loop.pause before.length call world next) failures checking quiet' := by
  refine ⟨{ call with seen := loop.now :: call.seen, rest := next } :: rest, ?_, ?_, h.inCheck, h.few,
    h.alone, ?_⟩
  · rw [Loop.calls_pause hcalls]
    exact List.perm_middle.trans ((hperm.cons _).trans List.perm_middle.symm)
  · intro other hother
    rcases List.mem_cons.mp hother with rfl | hmem
    · exact hnext
    · exact hrest other hmem
  · have hcount := reachedCount_pause hcalls world next
    rw [if_congr hreached rfl rfl, h.count] at hcount
    omega

/-- A quiet call that returns. -/
theorem Tally.finish_quiet (h : Tally platform creds loop failures checking quiet)
    (hcalls : loop.calls = before ++ call :: after) {rest : List GuessCall}
    (hrest : ∀ other ∈ rest, IsQuiet platform creds other)
    (hperm : (before ++ after).Perm (checking ++ rest)) (world : World) (result : Except Error Bool) :
    Tally platform creds (loop.finish before.length call world result) failures checking rest := by
  refine ⟨?_, hrest, h.inCheck, h.few, h.alone, ?_⟩
  · rw [Loop.calls_finish hcalls]
    exact hperm
  · rw [reachedCount_finish hcalls, h.count]

/-- A call goes into its check, when none is in it. -/
theorem Tally.pause_pass (h : Tally platform creds loop failures [] quiet)
    (hcalls : loop.calls = before ++ call :: after) {rest : List GuessCall}
    (hrest : ∀ other ∈ rest, IsQuiet platform creds other) (hperm : (before ++ after).Perm rest)
    (hfew : failures ≤ 5) (hseen : call.seen = []) (hpass : LetThrough call.request loop.state)
    (world : World) (check : Coroutine Database IdentityResult) :
    ∃ checking' quiet', Tally platform creds (loop.pause before.length call world
      (check.zoom World.db (fun world db => { world with db }) >>=
        settleCredentials platform call.request.login)) failures checking' quiet' := by
  have hfirst : Reached call.request (loop.now :: call.seen) := by
    rw [hseen, reached_singleton_iff, Loop.state_now]
    exact hpass
  have hnot : ¬ Reached call.request call.seen := fun hreached => ne_nil_of_reached hreached hseen
  refine ⟨[{ call with
    seen := loop.now :: call.seen
    rest := check.zoom World.db (fun world db => { world with db }) >>=
      settleCredentials platform call.request.login }], rest, ?_, hrest, ?_, ?_, le_rfl, ?_⟩
  · rw [Loop.calls_pause hcalls]
    exact List.perm_middle.trans (hperm.cons _)
  · intro other hother
    rw [List.mem_singleton.mp hother]
    exact ⟨hfirst, check, rfl⟩
  · rw [List.length_singleton]
    omega
  · have hcount := reachedCount_pause hcalls world (check.zoom World.db (fun world db => { world with db })
      >>= settleCredentials platform call.request.login)
    rw [if_pos hfirst, if_neg hnot, h.count] at hcount
    simpa using hcount

/-- The call in its check goes on in it. -/
theorem Tally.pause_check (h : Tally platform creds loop failures [call] quiet)
    (hcalls : loop.calls = before ++ call :: after) (hperm : (before ++ after).Perm quiet)
    (world : World) (check : Coroutine Database IdentityResult) :
    ∃ checking' quiet', Tally platform creds (loop.pause before.length call world
      (check.zoom World.db (fun world db => { world with db }) >>=
        settleCredentials platform call.request.login)) failures checking' quiet' := by
  have hreached : Reached call.request call.seen := (h.inCheck call (List.mem_singleton_self _)).1
  have hnext : Reached call.request (loop.now :: call.seen) :=
    (reached_cons_iff (ne_nil_of_reached hreached)).mpr hreached
  refine ⟨[{ call with
    seen := loop.now :: call.seen
    rest := check.zoom World.db (fun world db => { world with db }) >>=
      settleCredentials platform call.request.login }], quiet, ?_, h.isQuiet, ?_, h.few, le_rfl, ?_⟩
  · rw [Loop.calls_pause hcalls]
    exact List.perm_middle.trans (hperm.cons _)
  · intro other hother
    rw [List.mem_singleton.mp hother]
    exact ⟨hnext, check, rfl⟩
  · have hcount := reachedCount_pause hcalls world (check.zoom World.db (fun world db => { world with db })
      >>= settleCredentials platform call.request.login)
    rw [if_pos hnext, if_pos hreached, h.count] at hcount
    simpa using hcount

/-- The failure of the call in its check is counted. -/
theorem Tally.pause_count (h : Tally platform creds loop failures [call] quiet)
    (hcalls : loop.calls = before ++ call :: after) (hperm : (before ++ after).Perm quiet)
    (world : World) {username reason : String} {next : Coroutine World (Except Error Bool)}
    (hnext : next = rejectCredentials platform call.request.login.req call.request.login.method username
      reason) :
    ∃ checking' quiet', Tally platform creds (loop.pause before.length call world next)
      (failures + 1) checking' quiet' := by
  have hreached : Reached call.request call.seen := (h.inCheck call (List.mem_singleton_self _)).1
  have hcons : Reached call.request (loop.now :: call.seen) :=
    (reached_cons_iff (ne_nil_of_reached hreached)).mpr hreached
  have hfew := h.few
  rw [List.length_singleton] at hfew
  refine ⟨[], { call with seen := loop.now :: call.seen, rest := next } :: quiet, ?_, ?_, by simp, hfew,
    Nat.zero_le _, ?_⟩
  · rw [Loop.calls_pause hcalls]
    exact List.perm_middle.trans (hperm.cons _)
  · intro other hother
    rcases List.mem_cons.mp hother with rfl | hmem
    · exact .counted hcons username reason hnext
    · exact h.isQuiet other hmem
  · have hcount := reachedCount_pause hcalls world next
    rw [if_pos hcons, if_pos hreached, h.count, List.length_singleton] at hcount
    rw [List.length_nil]
    omega

/-! ### Schedules -/

theorem Counted.pause (h : Counted platform creds identity source since loop failures last)
    (hcalls : loop.calls = before ++ call :: after) {world : World}
    {next : Coroutine World (Except Error Bool)} {failures' : Nat} {last' : ℚ}
    (hguard : world.guesses = guardAfter identity source last' failures') (hstarted : since ≤ last')
    (hpast : last' ≤ world.monotonic)
    (htally : ∃ checking quiet,
      Tally platform creds (loop.pause before.length call world next) failures' checking quiet) :
    Counted platform creds identity source since (loop.pause before.length call world next) failures'
      last' := by
  refine ⟨hguard, hstarted, hpast, fun other hother => ?_, h.refusals, htally⟩
  have hcall := h.same call (by rw [hcalls]; simp)
  rw [Loop.calls_pause hcalls] at hother
  rcases List.mem_append.mp hother with hmem | hmem
  · exact h.same other (by rw [hcalls]; simp [hmem])
  · rcases List.mem_cons.mp hmem with rfl | hmem
    · exact hcall
    · exact h.same other (by rw [hcalls]; simp [hmem])

theorem Counted.finish (h : Counted platform creds identity source since loop failures last)
    (hcalls : loop.calls = before ++ call :: after) {world : World} {result : Except Error Bool}
    (hguesses : world.guesses = loop.state.guesses) (hclock : world.monotonic = loop.state.monotonic)
    (hrefused : ¬ Reached call.request call.seen →
      result = ((call.request.slowedDown platform).runAlone loop.state).1)
    (htally : ∃ checking quiet,
      Tally platform creds (loop.finish before.length call world result) failures checking quiet) :
    Counted platform creds identity source since (loop.finish before.length call world result) failures
      last := by
  refine ⟨hguesses.trans h.guard, h.started, h.past.trans_eq hclock.symm, fun other hother => ?_, ?_,
    htally⟩
  · rw [Loop.calls_finish hcalls] at hother
    refine h.same other ?_
    rw [hcalls]
    rcases List.mem_append.mp hother with hmem | hmem <;> simp [hmem]
  · intro ret hret
    rcases List.mem_cons.mp hret with rfl | hmem
    · exact hrefused
    · exact h.refusals ret hmem

theorem Counted.resume_check (h : Counted platform creds identity source since loop failures last)
    (hcalls : loop.calls = before ++ call :: after) (htime : loop.state.monotonic < since + 1)
    (htally : Tally platform creds loop failures [call] quiet) (hperm : (before ++ after).Perm quiet)
    (hwrong : ∀ ret ∈ (loop.advance before.length call).returned, ret.result ≠ .ok true) :
    ∃ failures' last', Counted platform creds identity source since
      (loop.advance before.length call) failures' last' := by
  obtain ⟨hkey, hsource⟩ := h.same call (by rw [hcalls]; simp)
  have hnow : loop.state.monotonic - last ≤ 900 := by
    have hstarted := h.started
    linarith
  have hfew : failures ≤ 5 := by
    have hall := htally.few
    rw [List.length_singleton] at hall
    omega
  have hguard : loop.state.guesses =
      guardAfter call.request.login.key call.request.login.source last failures := by
    rw [hkey, hsource]
    exact h.guard
  rcases advance_check (htally.inCheck call (List.mem_singleton_self _)) hguard hnow hfew
    before.length with ⟨world, check, hguesses, hclock, hadvance⟩ | ⟨world, hadvance⟩ |
      ⟨username, reason, hadvance⟩
  · rw [hadvance]
    exact ⟨failures, last, h.pause hcalls (hguesses.trans h.guard) h.started
      (h.past.trans_eq hclock.symm) (htally.pause_check hcalls hperm world check)⟩
  · rw [hadvance] at hwrong
    exact absurd rfl (hwrong _ List.mem_cons_self)
  · rw [hadvance, hkey, hsource]
    exact ⟨failures + 1, loop.state.monotonic, h.pause hcalls rfl (h.started.trans h.past) le_rfl
      (htally.pause_count hcalls hperm _ rfl)⟩

theorem Counted.resume_fresh (h : Counted platform creds identity source since loop failures last)
    (hcalls : loop.calls = before ++ call :: after) (htime : loop.state.monotonic < since + 1)
    (htally : Tally platform creds loop failures checking quiet) {rest : List GuessCall}
    (hrest : ∀ other ∈ rest, IsQuiet platform creds other)
    (hperm : (before ++ after).Perm (checking ++ rest)) (hseen : call.seen = [])
    (hbody : call.rest = call.request.body platform creds)
    (hapart : LetThrough call.request loop.state → checking = []) :
    ∃ failures' last', Counted platform creds identity source since
      (loop.advance before.length call) failures' last' := by
  obtain ⟨hkey, hsource⟩ := h.same call (by rw [hcalls]; simp)
  have hnow : loop.state.monotonic - last ≤ 900 := by
    have hstarted := h.started
    linarith
  have hsame : (loop.state.guesses.delayFor call.request.login.key call.request.login.source
      loop.state.monotonic).2 = loop.state.guesses := by
    rw [hkey, hsource, h.guard, delayFor_guardAfter hnow]
  rcases advance_fresh hbody hsame before.length with ⟨hpass, check, hadvance⟩ | ⟨hslow, hadvance⟩
  · -- nothing else is in its check, so this call is counted before another can pass
    obtain rfl := hapart hpass
    have hfew := failures_le_of_letThrough h htime hkey hsource htally.few hpass
    rw [hadvance]
    exact ⟨failures, last, h.pause hcalls h.guard h.started h.past
      (htally.pause_pass hcalls hrest hperm hfew hseen hpass loop.state check)⟩
  · have hnot : ¬ Reached call.request (loop.now :: call.seen) := by
      rw [hseen, reached_singleton_iff, Loop.state_now]
      exact hslow
    have hold : ¬ Reached call.request call.seen :=
      fun hreached => ne_nil_of_reached hreached hseen
    have hquiet {next : Coroutine World (Except Error Bool)}
        (hnext : next = call.request.slowedDown platform) :
        Quiet platform creds call.request (loop.now :: call.seen) next :=
      .refused (List.cons_ne_nil _ _) hnot hnext
    rw [hadvance]
    exact ⟨failures, last, h.pause hcalls h.guard h.started h.past ⟨checking,
      htally.pause_quiet hcalls hrest hperm loop.state (hquiet rfl) (iff_of_false hnot hold)⟩⟩

theorem Counted.resume_reject (h : Counted platform creds identity source since loop failures last)
    (hcalls : loop.calls = before ++ call :: after)
    (htally : Tally platform creds loop failures checking quiet) {rest : List GuessCall}
    (hrest : ∀ other ∈ rest, IsQuiet platform creds other)
    (hperm : (before ++ after).Perm (checking ++ rest)) {username reason : String}
    (hbody : call.rest = rejectCredentials platform call.request.login.req call.request.login.method
      username reason)
    (hrefused : ¬ Reached call.request call.seen → call.rest = call.request.slowedDown platform) :
    ∃ failures' last', Counted platform creds identity source since
      (loop.advance before.length call) failures' last' := by
  obtain ⟨world, hguesses, hclock, hadvance⟩ := advance_reject hbody before.length
  rw [hadvance]
  refine ⟨failures, last, h.finish hcalls hguesses hclock (fun hnot => ?_)
    ⟨checking, rest, htally.finish_quiet hcalls hrest hperm world _⟩⟩
  rw [hrefused hnot]

theorem counted_resume (h : Counted platform creds identity source since loop failures last)
    (hcalls : loop.calls = before ++ call :: after) (htime : loop.state.monotonic < since + 1)
    (hapart : call.seen = [] → LetThrough call.request loop.state →
      ∀ other ∈ loop.calls, ¬ InCheck platform other)
    (hwrong : ∀ ret ∈ (loop.advance before.length call).returned, ret.result ≠ .ok true) :
    ∃ failures' last', Counted platform creds identity source since
      (loop.advance before.length call) failures' last' := by
  obtain ⟨checking, quiet, htally⟩ := h.tally
  rcases htally.splits hcalls with ⟨rfl, hperm⟩ | ⟨rest, hrest, hquiet, hperm⟩
  · exact h.resume_check hcalls htime htally hperm hwrong
  · rcases hquiet with ⟨hseen, hbody⟩ | ⟨hseen, hreached, hbody⟩ | ⟨hreached, username, reason, hbody⟩
    · refine h.resume_fresh hcalls htime htally hrest hperm hseen hbody fun hpass => ?_
      refine List.eq_nil_iff_forall_not_mem.mpr fun other hother => ?_
      refine hapart hseen hpass other ?_ (htally.inCheck other hother)
      exact htally.perm.mem_iff.mpr (List.mem_append_left _ hother)
    · exact h.resume_reject hcalls htally hrest hperm hbody fun _ => hbody
    · exact h.resume_reject hcalls htally hrest hperm hbody fun hnot => absurd hreached hnot

end

section

variable (platform : Platform) (creds : Credentials)

/-- The loop of a service that has just started, after a schedule of guesses. -/
def guessRun (db : Database) (now : ClockReading) (monotonic : ℚ)
    (schedule : List (Move Guess AaaEvent)) : GuessLoop :=
  Loop.run (Guess.body platform creds) AaaEvent.react { state := World.start db now monotonic } schedule

end

theorem counted_move (h : Counted platform creds identity source since loop failures last)
    {m : Move Guess AaaEvent}
    (hsame : ∀ guess, m = .call guess → guess.login.key = identity ∧ guess.login.source = source)
    (htime : loop.state.monotonic < since + 1) (hapart : ¬ Overlaps platform loop m)
    (hwrong : ∀ ret ∈ (loop.move (Guess.body platform creds) AaaEvent.react m).returned,
      ret.result ≠ .ok true) :
    ∃ failures' last', Counted platform creds identity source since
      (loop.move (Guess.body platform creds) AaaEvent.react m) failures' last' := by
  obtain ⟨checking, quiet, htally⟩ := h.tally
  cases m with
  | outside event =>
      refine ⟨failures, last, ?_, h.started, ?_, h.same, h.refusals, checking, quiet, htally.perm,
        htally.isQuiet, htally.inCheck, htally.few, htally.alone, htally.count⟩
      · cases event <;> exact h.guard
      · cases event with
        | clock now elapsed => exact h.past.trans (le_add_of_nonneg_right elapsed.2)
        | commit db => exact h.past
  | call guess =>
      refine ⟨failures, last, h.guard, h.started, h.past, ?_, h.refusals, checking,
        ⟨guess, [], guess.body platform creds⟩ :: quiet, ?_, ?_, htally.inCheck, htally.few,
        htally.alone, ?_⟩
      · intro call hcall
        rcases List.mem_append.mp hcall with hmem | hmem
        · exact h.same call hmem
        · rw [List.mem_singleton.mp hmem]
          exact hsame guess rfl
      · refine (htally.perm.append_right _).trans ?_
        rw [List.append_assoc]
        exact List.perm_append_comm.append_left checking
      · intro call hcall
        rcases List.mem_cons.mp hcall with rfl | hmem
        · exact .fresh rfl rfl
        · exact htally.isQuiet call hmem
      · have hfresh : ¬ Reached guess [] := fun hreached => ne_nil_of_reached hreached rfl
        rw [← htally.count, reachedCount, reachedCount]
        simp [Loop.move, List.countP_append, hfresh]
  | resume index =>
      rcases loop.resume_cases index with hidle | ⟨before, call, after, hcalls, rfl, hresume⟩
      · have hmove : loop.move (Guess.body platform creds) AaaEvent.react (.resume index) = loop := hidle
        rw [hmove]
        exact ⟨failures, last, h⟩
      · have hmove : loop.move (Guess.body platform creds) AaaEvent.react (.resume before.length) =
          loop.advance before.length call := hresume
        rw [hmove] at hwrong ⊢
        refine counted_resume h hcalls htime (fun hseen hpass other hother hcheck => hapart ?_) hwrong
        exact ⟨call, by rw [hcalls]; simp, hseen, hpass, other, hother, hcheck⟩

theorem counted_run {db : Database} {now : ClockReading} {monotonic : ℚ}
    {schedule : List (Move Guess AaaEvent)}
    (hsame : ∀ guess, Move.call guess ∈ schedule →
      guess.login.key = identity ∧ guess.login.source = source)
    (htime : ∀ before, before <+: schedule →
      (guessRun platform creds db now monotonic before).state.monotonic < monotonic + 1)
    (hwrong : ∀ ret ∈ (guessRun platform creds db now monotonic schedule).returned,
      ret.result ≠ .ok true)
    (hapart : ∀ before m, before ++ [m] <+: schedule →
      ¬ Overlaps platform (guessRun platform creds db now monotonic before) m) :
    ∃ failures last, Counted platform creds identity source monotonic
      (guessRun platform creds db now monotonic schedule) failures last := by
  induction schedule using List.reverseRecOn with
  | nil =>
      exact ⟨0, monotonic, rfl, le_rfl, le_rfl, by simp [guessRun, Loop.run],
        by simp [guessRun, Loop.run], [], [], by simp [guessRun, Loop.run], by simp, by simp,
        by simp, by simp, by simp [guessRun, Loop.run, reachedCount]⟩
  | append_singleton schedule m ih =>
      have hmove : guessRun platform creds db now monotonic (schedule ++ [m]) =
          (guessRun platform creds db now monotonic schedule).move (Guess.body platform creds)
            AaaEvent.react m := Loop.run_concat _ _ _ _ _
      have hkeep : schedule <+: schedule ++ [m] := List.prefix_append _ _
      rw [hmove] at hwrong ⊢
      obtain ⟨failures, last, hcounted⟩ := ih
        (fun guess hguess => hsame guess (List.mem_append_left _ hguess))
        (fun before hbefore => htime before (hbefore.trans hkeep))
        (fun ret hret => hwrong ret (Loop.mem_returned_move _ _ hret m))
        (fun before m' hbefore => hapart before m' (hbefore.trans hkeep))
      exact counted_move hcounted
        (fun guess hguess => hsame guess (by rw [hguess]; exact List.mem_append_right _ (by simp)))
        (htime schedule hkeep) (hapart schedule m List.prefix_rfl) hwrong

/-- Within a second, and as long as no guess is let through while another is in its check, six guesses
get as far as `authenticate_user` and every other one that returns was slowed down. -/
theorem guesses_slowed_down (platform : Platform) (creds : Credentials) (identity source : String)
    (db : Database) (now : ClockReading) (monotonic : ℚ) (schedule : List (Move Guess AaaEvent))
    (hsame : ∀ guess, Move.call guess ∈ schedule →
      guess.login.key = identity ∧ guess.login.source = source)
    (htime : ∀ before, before <+: schedule →
      (guessRun platform creds db now monotonic before).state.monotonic < monotonic + 1)
    (hwrong : ∀ ret ∈ (guessRun platform creds db now monotonic schedule).returned,
      ret.result ≠ .ok true)
    (hapart : ∀ before m, before ++ [m] <+: schedule →
      ¬ Overlaps platform (guessRun platform creds db now monotonic before) m) :
    reachedCount (guessRun platform creds db now monotonic schedule) ≤ GuessGuard.new.pair.free + 1 ∧
      ∀ ret ∈ (guessRun platform creds db now monotonic schedule).returned,
        ¬ Reached ret.request ret.seen →
          ret.result = ((ret.request.slowedDown platform).runAlone ret.moment.state).1 := by
  obtain ⟨failures, last, hcounted⟩ := counted_run hsame htime hwrong hapart
  obtain ⟨checking, quiet, htally⟩ := hcounted.tally
  have hfew := htally.few
  refine ⟨?_, hcounted.refusals⟩
  rw [htally.count]
  exact hfew

/-! Alice's laptop tries a password of hers that is no longer valid. -/

def aliceGuess : Guess where
  directory _ _ := .ok none
  attrs := ⟨[("NACo-Auth-Method", ["PAP"]), ("NACo-NAS-IP", ["10.0.0.1"]),
    ("Calling-Station-Id", ["AA-BB-CC-00-00-01"]), ("User-Name", ["alice"]),
    ("User-Password", ["tr0ub4dor"])]⟩

def guessesOfAlice : List (Move Guess AaaEvent) → GuessLoop :=
  guessRun officePlatform aliceCredentials aliceDb officeWorld.now 0

theorem not_overlaps {m : Move Guess AaaEvent}
    (h : ∀ call ∈ loop.calls, call.seen.isEmpty = true →
      ∀ other ∈ loop.calls, ¬ Reached other.request other.seen) : ¬ Overlaps platform loop m := by
  cases m with
  | outside event => exact id
  | call guess => exact id
  | resume index =>
      rintro ⟨call, hcall, hseen, -, other, hother, hreached, -⟩
      exact h call (List.mem_of_getElem? hcall) (by simp [hseen]) other hother hreached

/-- Eight guesses, one after the other, with a tenth of a second in between. -/
def eightGuesses : List (Move Guess AaaEvent) :=
  (List.replicate 8 ([.call aliceGuess, .resume 0, .resume 0, .resume 0, .resume 0] ++
    [.outside (.clock officeWorld.now ⟨1 / 10, by norm_num⟩)])).flatten

/-- Six of them get as far as the password; the seventh and the eighth are slowed down. -/
theorem guesses_slowed_down_alice :
    (reachedCount (guessesOfAlice eightGuesses) ≤ 6 ∧
      ∀ ret ∈ (guessesOfAlice eightGuesses).returned, ¬ Reached ret.request ret.seen →
        ret.result = ((ret.request.slowedDown officePlatform).runAlone ret.moment.state).1) ∧
      (guessesOfAlice eightGuesses).returned.map (fun ret => decide (Reached ret.request ret.seen)) =
        List.replicate 2 false ++ List.replicate 6 true := by
  have hquiet : ∀ before ∈ List.inits eightGuesses,
      (guessesOfAlice before).state.monotonic < 0 + 1 ∧
        ∀ call ∈ (guessesOfAlice before).calls, call.seen.isEmpty = true →
          ∀ other ∈ (guessesOfAlice before).calls, ¬ Reached other.request other.seen := by
    decide +kernel
  refine ⟨guesses_slowed_down officePlatform aliceCredentials "alice" "aa:bb:cc:00:00:01" aliceDb
    officeWorld.now 0 eightGuesses ?_ ?_ ?_ ?_, by decide +kernel⟩
  · intro guess hguess
    obtain rfl : guess = aliceGuess := by simpa [eightGuesses] using hguess
    decide +kernel
  · exact fun before hbefore => (hquiet before ((List.mem_inits _ _).mpr hbefore)).1
  · decide +kernel
  · intro before m hbefore
    have hmem := (List.mem_inits _ _).mpr ((List.prefix_append before [m]).trans hbefore)
    exact not_overlaps (hquiet before hmem).2

/-- Seven guesses ask the guard before the first of them fails: all seven get as far as
`authenticate_user`, and each is refused for its password. -/
theorem parallel_guesses_pass :
    ∃ schedule : List (Move Guess AaaEvent),
      (∀ guess, Move.call guess ∈ schedule →
        guess.login.key = "alice" ∧ guess.login.source = "aa:bb:cc:00:00:01") ∧
      (∀ before, before <+: schedule → (guessesOfAlice before).state.monotonic < 0 + 1) ∧
      (guessesOfAlice schedule).returned.map (·.result) = List.replicate 7 (.ok false) ∧
      ¬ reachedCount (guessesOfAlice schedule) ≤ 6 := by
  refine ⟨List.replicate 7 (.call aliceGuess) ++ (List.range 7).map Move.resume ++
    List.replicate 28 (.resume 0), ?_, ?_, ?_, ?_⟩
  · intro guess hguess
    obtain rfl : guess = aliceGuess := by simpa using hguess
    decide +kernel
  · intro before hbefore
    have hall : ∀ before ∈ List.inits (List.replicate 7 (Move.call aliceGuess) ++
        (List.range 7).map Move.resume ++ List.replicate 28 (.resume 0)),
          (guessesOfAlice before).state.monotonic < 0 + 1 := by
      decide +kernel
    exact hall before ((List.mem_inits _ _).mpr hbefore)
  · decide +kernel
  · decide +kernel

end Naco
