import Mathlib.Algebra.BigOperators.Group.List.Basic
import Mathlib.Algebra.Order.Group.Multiset
import Mathlib.Tactic.Common

/-!
# Tasks that can be stopped

Whatever a task awaits may come back with an exception, and a cancellation is one that is thrown in
from outside. Between two awaits a task runs alone. A handler is a task that does its work inside a
`try`, and cleans up in the `finally` however that work ends.
-/

namespace Py

/-- What ends a task early. A timeout is an `OSError` too. -/
inductive Stop where
  | osError
  | exception
  | cancelled
  deriving DecidableEq, Repr

/-- What is left of a task: its outcome, code that runs without a break, or an `await`, which goes on
with what comes back. Both functions of `act` read the state before it. -/
inductive Awaitable (σ α : Type) where
  | done (outcome : Except Stop α)
  | act (update : σ → σ) (next : σ → Awaitable σ α)
  | await (next : Except Stop Unit → Awaitable σ α)

namespace Awaitable

variable {σ τ α β : Type}

def bind : Awaitable σ α → (α → Awaitable σ β) → Awaitable σ β
  | .done (.ok value), f => f value
  | .done (.error stop), _ => .done (.error stop)
  | .act update next, f => .act update fun state => (next state).bind f
  | .await next, f => .await fun wake => (next wake).bind f

instance : Monad (Awaitable σ) where
  pure value := .done (.ok value)
  bind := bind

/-- Code that only changes the state. -/
def run (update : σ → σ) : Awaitable σ Unit :=
  .act update fun _ => pure ()

/-- `with contextlib.suppress(ConnectionError, OSError)`. -/
def suppress : Awaitable σ Unit → Awaitable σ Unit
  | .done (.error .osError) => pure ()
  | .done outcome => .done outcome
  | .act update next => .act update fun state => (next state).suppress
  | .await next => .await fun wake => (next wake).suppress

/-- A task that works on a part of the state. -/
def zoom (get : σ → τ) (set : σ → τ → σ) : Awaitable τ α → Awaitable σ α
  | .done outcome => .done outcome
  | .act update next =>
      .act (fun state => set state (update (get state))) fun state => (next (get state)).zoom get set
  | .await next => .await fun wake => (next wake).zoom get set

/-- The code up to the next `await` that has to wait, or to the end. -/
def proceed : Awaitable σ α → σ → Awaitable σ α × σ
  | .done outcome, state => (.done outcome, state)
  | .act update next, state => (next state).proceed (update state)
  | .await next, state => (.await next, state)

/-- What follows the `await` that comes back. -/
def wakeUp (wake : Except Stop Unit) : Awaitable σ α → Awaitable σ α
  | .await next => next wake
  | c => c

/-! ### What the code of a task does -/

/-- All its code is related by `G`. -/
def Keeps (G : σ → σ → Prop) : Awaitable σ α → Prop
  | .done _ => True
  | .act update next => ∀ state, G state (update state) ∧ (next state).Keeps G
  | .await next => ∀ wake, (next wake).Keeps G

variable {G : σ → σ → Prop}

theorem Keeps.bind {c : Awaitable σ α} {f : α → Awaitable σ β} (hc : c.Keeps G)
    (hf : ∀ value, (f value).Keeps G) : (c >>= f).Keeps G := by
  change (c.bind f).Keeps G
  induction c with
  | done outcome =>
      cases outcome with
      | error stop => trivial
      | ok value => exact hf value
  | act update next ih => exact fun state => ⟨(hc state).1, ih state (hc state).2⟩
  | await next ih => exact fun wake => ih wake (hc wake)

theorem Keeps.suppress {c : Awaitable σ Unit} (hc : c.Keeps G) : c.suppress.Keeps G := by
  induction c with
  | done outcome =>
      unfold Awaitable.suppress
      split <;> trivial
  | act update next ih => exact fun state => ⟨(hc state).1, ih state (hc state).2⟩
  | await next ih => exact fun wake => ih wake (hc wake)

theorem keeps_zoom {get : σ → τ} {set : σ → τ → σ} (hset : ∀ state part, G state (set state part))
    (c : Awaitable τ α) : (c.zoom get set).Keeps G := by
  induction c with
  | done outcome => trivial
  | act update next ih => exact fun state => ⟨hset state _, ih (get state)⟩
  | await next ih => exact fun wake => ih wake

theorem Keeps.wakeUp {c : Awaitable σ α} (hc : c.Keeps G) (wake : Except Stop Unit) :
    (c.wakeUp wake).Keeps G := by
  cases c with
  | done outcome => exact hc
  | act update next => exact hc
  | await next => exact hc wake

theorem Keeps.proceed {c : Awaitable σ α} (hc : c.Keeps G) (state : σ) :
    (c.proceed state).1.Keeps G := by
  induction c generalizing state with
  | done outcome => trivial
  | act update next ih => exact ih state (hc state).2 (update state)
  | await next ih => exact hc

/-- What all code of a task preserves holds where it waits again. -/
theorem Keeps.preserves {c : Awaitable σ α} (hc : c.Keeps G) {P : σ → Prop}
    (hP : ∀ state state', G state state' → P state → P state') {state : σ} (hstate : P state) :
    P (c.proceed state).2 := by
  induction c generalizing state with
  | done outcome => exact hstate
  | act update next ih => exact ih state (hc state).2 (hP _ _ (hc state).1 hstate)
  | await next ih => exact hstate

end Awaitable

/-! ### Handlers -/

/-- A handler in its three parts: the code before the `try`, which may also return, what is inside,
and the `finally`. -/
structure Handler (σ κ : Type) where
  enter : κ → σ → Bool × σ
  body : κ → Awaitable σ Unit
  cleanup : κ → Awaitable σ Unit

namespace Handler

variable {σ κ ε : Type}

/-- Where a handler waits. -/
inductive Stage (σ : Type) where
  | unstarted
  | inside (rest : Awaitable σ Unit)
  | leaving (rest : Awaitable σ Unit)

structure Instance (σ κ : Type) where
  request : κ
  stage : Stage σ

/-- The instances of a handler that have not ended, and the state they share. -/
structure System (σ κ : Type) where
  state : σ
  instances : List (Instance σ κ) := []

/-- What happens next: somebody else changes the state, an instance is created, or what one waits for
comes back or is stopped. -/
inductive Event (κ ε : Type) where
  | other (change : ε)
  | create (request : κ)
  | resume (index : Nat) (wake : Except Stop Unit)

/-- Goes on in the `finally`. There is no stage for an instance that has ended. -/
def leave (rest : Awaitable σ Unit) (state : σ) : Option (Stage σ) × σ :=
  match rest.proceed state with
  | (.done _, state) => (none, state)
  | (rest, state) => (some (.leaving rest), state)

variable (handler : Handler σ κ)

/-- Goes on inside the `try`, and in the `finally` once that is over, be it by an exception. -/
def work (request : κ) (rest : Awaitable σ Unit) (state : σ) : Option (Stage σ) × σ :=
  match rest.proceed state with
  | (.done _, state) => leave (handler.cleanup request) state
  | (rest, state) => (some (.inside rest), state)

def advance (request : κ) (wake : Except Stop Unit) : Stage σ → σ → Option (Stage σ) × σ
  | .unstarted, state =>
      match wake with
      | .error _ => (none, state)
      | .ok () =>
          match handler.enter request state with
          | (false, state) => (none, state)
          | (true, state) => handler.work request (handler.body request) state
  | .inside rest, state => handler.work request (rest.wakeUp wake) state
  | .leaving rest, state => leave (rest.wakeUp wake) state

/-- The system with an instance at its next stage, or without it. -/
def System.place (system : System σ κ) (index : Nat) (found : Instance σ κ) :
    Option (Stage σ) × σ → System σ κ
  | (none, state) => ⟨state, system.instances.eraseIdx index⟩
  | (some stage, state) => ⟨state, system.instances.set index { found with stage }⟩

variable (react : ε → σ → σ)

def move (system : System σ κ) : Event κ ε → System σ κ
  | .other change => { system with state := react change system.state }
  | .create request => { system with instances := system.instances ++ [⟨request, .unstarted⟩] }
  | .resume index wake =>
      match system.instances[index]? with
      | none => system
      | some found =>
          system.place index found (handler.advance found.request wake found.stage system.state)

def run (system : System σ κ) (events : List (Event κ ε)) : System σ κ :=
  events.foldl (handler.move react) system

/-- The request of an instance inside its `try`. -/
def Instance.held (found : Instance σ κ) : Multiset κ :=
  match found.stage with
  | .inside _ => {found.request}
  | _ => 0

/-- The requests of the instances that are inside their `try`. -/
def System.held (system : System σ κ) : Multiset κ :=
  (system.instances.map Instance.held).sum

@[simp]
theorem held_unstarted (request : κ) : (⟨request, .unstarted⟩ : Instance σ κ).held = 0 :=
  rfl

@[simp]
theorem held_inside (request : κ) (rest : Awaitable σ Unit) :
    (⟨request, .inside rest⟩ : Instance σ κ).held = {request} :=
  rfl

@[simp]
theorem held_leaving (request : κ) (rest : Awaitable σ Unit) :
    (⟨request, .leaving rest⟩ : Instance σ κ).held = 0 :=
  rfl

theorem held_append (state : σ) (before after : List (Instance σ κ)) (found : Instance σ κ) :
    (⟨state, before ++ found :: after⟩ : System σ κ).held =
      found.held + (⟨state, before ++ after⟩ : System σ κ).held := by
  simp only [System.held, List.map_append, List.map_cons, List.sum_append, List.sum_cons]
  exact add_left_comm _ _ _

/-! ### Invariants

An invariant relates the shared state to the requests inside their `try`. It is enough that it is kept
by what others do, by entering and by the code up to the first `await` of the `finally`, and that all
other code is related by some `G` that keeps it.
-/

structure Rules (G : σ → σ → Prop) (I : Multiset κ → σ → Prop) : Prop where
  other : ∀ change held state, I held state → I held (react change state)
  keeps : ∀ held state state', G state state' → I held state → I held state'
  refuse : ∀ request held state, (handler.enter request state).1 = false → I held state →
    I held (handler.enter request state).2
  enter : ∀ request held state, (handler.enter request state).1 = true → I held state →
    I (request ::ₘ held) (handler.enter request state).2
  body : ∀ request, (handler.body request).Keeps G
  leave : ∀ request held state, I (request ::ₘ held) state →
    I held ((handler.cleanup request).proceed state).2
  cleanup : ∀ request state, ((handler.cleanup request).proceed state).1.Keeps G

/-- What is left of an instance is related by `G`. -/
def Stage.Keeps (G : σ → σ → Prop) : Stage σ → Prop
  | .unstarted => True
  | .inside rest => rest.Keeps G
  | .leaving rest => rest.Keeps G

/-- An instance has come to its next stage, or to its end, and the invariant holds beside the others. -/
structure Settled (G : σ → σ → Prop) (I : Multiset κ → σ → Prop) (request : κ) (others : Multiset κ)
    (outcome : Option (Stage σ) × σ) : Prop where
  ended : outcome.1 = none → I others outcome.2
  waits : ∀ stage, outcome.1 = some stage →
    stage.Keeps G ∧ I ((⟨request, stage⟩ : Instance σ κ).held + others) outcome.2

structure System.Sound (G : σ → σ → Prop) (I : Multiset κ → σ → Prop) (system : System σ κ) :
    Prop where
  invariant : I system.held system.state
  instances : ∀ found ∈ system.instances, found.stage.Keeps G

variable {handler react} {G : σ → σ → Prop} {I : Multiset κ → σ → Prop}

theorem settled_ended {request : κ} {others : Multiset κ} {state : σ} (h : I others state) :
    Settled G I request others (none, state) :=
  ⟨fun _ => h, fun _ hstage => nomatch hstage⟩

theorem settled_waits {request : κ} {others : Multiset κ} {stage : Stage σ} {state : σ}
    (hstage : stage.Keeps G) (h : I ((⟨request, stage⟩ : Instance σ κ).held + others) state) :
    Settled G I request others (some stage, state) := by
  refine ⟨fun hnone => ?_, fun stage' hsome => ?_⟩
  · cases hnone
  · cases hsome
    exact ⟨hstage, h⟩

/-- In the `finally`, the request is not held any more. -/
theorem settled_leave {request : κ} {others : Multiset κ} {rest : Awaitable σ Unit} {state : σ}
    (hrest : (rest.proceed state).1.Keeps G) (h : I others (rest.proceed state).2) :
    Settled G I request others (Handler.leave rest state) := by
  unfold Handler.leave
  split
  · next outcome state' hproceed =>
      rw [hproceed] at h
      exact settled_ended h
  · next rest' state' hproceed =>
      rw [hproceed] at hrest h
      exact settled_waits hrest (by rwa [held_leaving, zero_add])

/-- An instance of a system goes on beside the others. -/
theorem sound_place {system : System σ κ} (hsound : system.Sound G I)
    {before after : List (Instance σ κ)} {found : Instance σ κ} {index : Nat}
    (hinstances : system.instances = before ++ found :: after) (hlength : before.length = index)
    {outcome : Option (Stage σ) × σ}
    (hsettled : Settled G I found.request (⟨system.state, before ++ after⟩ : System σ κ).held
      outcome) :
    (system.place index found outcome).Sound G I := by
  have hothers (other : Instance σ κ) (hother : other ∈ before ++ after) : other.stage.Keeps G := by
    refine hsound.instances other ?_
    rw [hinstances]
    exact (List.sublist_cons_self found after).append_left before |>.subset hother
  obtain ⟨next, state⟩ := outcome
  cases next with
  | none =>
      have herase : system.instances.eraseIdx index = before ++ after := by
        rw [hinstances, ← hlength, List.eraseIdx_append_of_length_le le_rfl]
        simp
      dsimp only [System.place]
      rw [herase]
      exact ⟨hsettled.ended rfl, hothers⟩
  | some stage =>
      have hset : system.instances.set index { found with stage } =
          before ++ { found with stage } :: after := by
        rw [hinstances, ← hlength, List.set_append_right _ _ le_rfl]
        simp
      obtain ⟨hkeeps, hstate⟩ := hsettled.waits stage rfl
      dsimp only [System.place]
      rw [hset]
      refine ⟨?_, ?_⟩
      · rw [held_append]
        exact hstate
      · intro other hother
        rcases List.mem_append.mp hother with hbefore | hafter
        · exact hothers other (List.mem_append_left _ hbefore)
        · rcases List.mem_cons.mp hafter with rfl | hafter
          · exact hkeeps
          · exact hothers other (List.mem_append_right _ hafter)

namespace Rules

variable (rules : handler.Rules react G I)

include rules

theorem settled_work {request : κ} {others : Multiset κ} {rest : Awaitable σ Unit} {state : σ}
    (hrest : rest.Keeps G) (h : I (request ::ₘ others) state) :
    Settled G I request others (handler.work request rest state) := by
  have hkept := hrest.proceed state
  have hinv := hrest.preserves (rules.keeps (request ::ₘ others)) h
  unfold Handler.work
  split
  · next outcome state' hproceed =>
      rw [hproceed] at hinv
      exact settled_leave (rules.cleanup request state') (rules.leave request others state' hinv)
  · next rest' state' hproceed =>
      rw [hproceed] at hkept hinv
      exact settled_waits hkept (by rwa [held_inside, Multiset.singleton_add])

theorem settled_advance {found : Instance σ κ} {others : Multiset κ} {state : σ}
    (hkeeps : found.stage.Keeps G) (h : I (found.held + others) state) (wake : Except Stop Unit) :
    Settled G I found.request others (handler.advance found.request wake found.stage state) := by
  obtain ⟨request, stage⟩ := found
  cases stage with
  | unstarted =>
      rw [held_unstarted, zero_add] at h
      cases wake with
      | error stop => exact settled_ended h
      | ok wake =>
          dsimp only [Handler.advance]
          split
          · next state' henter =>
              have hstate := rules.refuse request others state (by rw [henter]) h
              rw [henter] at hstate
              exact settled_ended hstate
          · next state' henter =>
              have hstate := rules.enter request others state (by rw [henter]) h
              rw [henter] at hstate
              exact rules.settled_work (rules.body request) hstate
  | inside rest =>
      rw [held_inside, Multiset.singleton_add] at h
      have hrest : rest.Keeps G := hkeeps
      exact rules.settled_work (hrest.wakeUp wake) h
  | leaving rest =>
      rw [held_leaving, zero_add] at h
      have hrest : rest.Keeps G := hkeeps
      exact settled_leave ((hrest.wakeUp wake).proceed state)
        ((hrest.wakeUp wake).preserves (rules.keeps others) h)

theorem sound_resume {system : System σ κ} (hsound : system.Sound G I) (index : Nat)
    (wake : Except Stop Unit) :
    (handler.move react system (.resume index wake)).Sound G I := by
  dsimp only [Handler.move]
  cases hfound : system.instances[index]? with
  | none => exact hsound
  | some found =>
      obtain ⟨hlt, hget⟩ := List.getElem?_eq_some_iff.mp hfound
      have hinstances : system.instances =
          system.instances.take index ++ found :: system.instances.drop (index + 1) := by
        rw [← hget, List.getElem_cons_drop, List.take_append_drop]
      have hlength : (system.instances.take index).length = index :=
        List.length_take_of_le hlt.le
      have hsettled := rules.settled_advance (hsound.instances found (List.mem_of_getElem? hfound))
        (by
          rw [← held_append system.state (system.instances.take index), ← hinstances]
          exact hsound.invariant) wake
      exact sound_place hsound hinstances hlength hsettled

theorem sound_move {system : System σ κ} (hsound : system.Sound G I) (event : Event κ ε) :
    (handler.move react system event).Sound G I := by
  cases event with
  | other change => exact ⟨rules.other change _ _ hsound.invariant, hsound.instances⟩
  | create request =>
      refine ⟨?_, ?_⟩
      · have hheld : (handler.move react system (.create request)).held = system.held := by
          simp [Handler.move, System.held]
        rw [hheld]
        exact hsound.invariant
      · intro found hfound
        rcases List.mem_append.mp hfound with hmem | hnew
        · exact hsound.instances found hmem
        · rw [List.mem_singleton.mp hnew]
          trivial
  | resume index wake => exact rules.sound_resume hsound index wake

/-- The invariant holds after every sequence of events. -/
theorem sound_run {system : System σ κ} (hsound : system.Sound G I) (events : List (Event κ ε)) :
    (handler.run react system events).Sound G I := by
  induction events generalizing system with
  | nil => exact hsound
  | cons event events ih => exact ih (rules.sound_move hsound event)

theorem invariant_run {state : σ} (h : I 0 state) (events : List (Event κ ε)) :
    I (handler.run react ⟨state, []⟩ events).held (handler.run react ⟨state, []⟩ events).state := by
  have hstart : (⟨state, []⟩ : System σ κ).Sound G I := ⟨h, by simp⟩
  exact (rules.sound_run hstart events).invariant

end Rules

end Handler

end Py
