import Mathlib.Data.List.Infix
import Mathlib.Tactic.Common

/-!
# Coroutines

A coroutine works on a state it shares with others. It runs in steps, each of them from one `await` to
the next, and only between two steps can anything else change the state. A transaction of a database
that serialises its transactions is a step as well.
-/

namespace Py

/-- What is left of a coroutine: its result, or a step. Both functions of a step read the state the
step starts in; the last step and the return are one. -/
inductive Coroutine (σ α : Type) where
  | done (result : α)
  | step (update : σ → σ) (next : σ → Coroutine σ α)

namespace Coroutine

variable {σ τ α β : Type}

def bind : Coroutine σ α → (α → Coroutine σ β) → Coroutine σ β
  | .done result, f => f result
  | .step update next, f => .step update fun state => (next state).bind f

instance : Monad (Coroutine σ) where
  pure := .done
  bind := bind

@[simp]
theorem pure_eq_done (result : α) : (pure result : Coroutine σ α) = .done result :=
  rfl

@[simp]
theorem done_bind (result : α) (f : α → Coroutine σ β) :
    ((.done result : Coroutine σ α) >>= f) = f result :=
  rfl

@[simp]
theorem step_bind (update : σ → σ) (next : σ → Coroutine σ α) (f : α → Coroutine σ β) :
    (Coroutine.step update next >>= f) = .step update fun state => next state >>= f :=
  rfl

/-- One step that computes a result. -/
def atomic (f : σ → α × σ) : Coroutine σ α :=
  .step (fun state => (f state).2) fun state => .done (f state).1

/-- One step that reads the state. -/
def read (f : σ → α) : Coroutine σ α :=
  atomic fun state => (f state, state)

theorem atomic_bind_pure (g : σ → β × σ) (f : β → α) :
    (atomic g >>= fun value => pure (f value)) = atomic fun state => (f (g state).1, (g state).2) :=
  rfl

/-- Goes on with the value of a call, unless it raised. -/
def andThen {ε : Type} (c : Coroutine σ (Except ε α)) (f : α → Coroutine σ (Except ε β)) :
    Coroutine σ (Except ε β) :=
  c >>= fun
    | .ok value => f value
    | .error error => .done (.error error)

/-- A coroutine that works on a part of the state. -/
def zoom (get : σ → τ) (set : σ → τ → σ) : Coroutine τ α → Coroutine σ α
  | .done result => .done result
  | .step update next =>
      .step (fun state => set state (update (get state))) fun state => (next (get state)).zoom get set

/-- The result and the last state when nothing else runs. -/
def runAlone : Coroutine σ α → σ → α × σ
  | .done result, state => (result, state)
  | .step update next, state => (next state).runAlone (update state)

@[simp]
theorem runAlone_atomic (f : σ → α × σ) (state : σ) : (atomic f).runAlone state = f state :=
  rfl

@[simp]
theorem runAlone_atomic_bind (g : σ → β × σ) (f : β → Coroutine σ α) (state : σ) :
    (atomic g >>= f).runAlone state = (f (g state).1).runAlone (g state).2 :=
  rfl

/-- A step that does not raise, and then what follows it. -/
theorem runAlone_atomic_andThen {ε : Type} {g : σ → Except ε β × σ}
    {f : β → Coroutine σ (Except ε α)} {state state' : σ} {value : β}
    (h : g state = (.ok value, state')) :
    ((atomic g).andThen f).runAlone state = (f value).runAlone state' := by
  rw [andThen, runAlone_atomic_bind, h]

/-! ### What is left after some steps -/

/-- The rest of a coroutine whose steps started in these states, the first one first. -/
def after : Coroutine σ α → List σ → Coroutine σ α
  | c, [] => c
  | .done result, _ :: _ => .done result
  | .step _ next, state :: states => (next state).after states

@[simp]
theorem after_nil (c : Coroutine σ α) : c.after [] = c := by
  cases c <;> rfl

@[simp]
theorem after_done (result : α) (states : List σ) :
    (done result : Coroutine σ α).after states = .done result := by
  cases states <;> rfl

@[simp]
theorem after_step (update : σ → σ) (next : σ → Coroutine σ α) (state : σ) (states : List σ) :
    (step update next).after (state :: states) = (next state).after states :=
  rfl

theorem after_concat (c : Coroutine σ α) (states : List σ) (state : σ) :
    c.after (states ++ [state]) = (c.after states).after [state] := by
  induction c generalizing states with
  | done result => simp
  | step update next ih =>
      cases states with
      | nil => simp
      | cons first states => exact ih first states

/-- The state after the next step. -/
def advance : Coroutine σ α → σ → σ
  | .done _, state => state
  | .step update _, state => update state

/-! ### Runs with interference -/

/-- How a run leaves a state: by a step of the coroutine, or because others change it. -/
inductive Departure (σ : Type) where
  | own (state : σ)
  | other (state : σ)

namespace Departure

def state : Departure σ → σ
  | .own state => state
  | .other state => state

def map (f : σ → τ) : Departure σ → Departure τ
  | .own state => .own (f state)
  | .other state => .other (f state)

@[simp]
theorem state_map (f : σ → τ) (departure : Departure σ) :
    (departure.map f).state = f departure.state := by
  cases departure <;> rfl

def isOther : Departure σ → Bool
  | .own _ => false
  | .other _ => true

/-- The states up to the next step of the coroutine, the one it starts in included. -/
def untilOwn : List (Departure σ) → List σ
  | [] => []
  | .own state :: _ => [state]
  | .other state :: trace => state :: untilOwn trace

/-- The states between the first step and the second. -/
def betweenSteps (trace : List (Departure σ)) : List σ :=
  untilOwn (trace.dropWhile isOther).tail

end Departure

/-- The coroutine runs from the first state to a result and the last state; others change the state
before, between and after its steps. The trace has every state that the run left. -/
inductive Run (other : σ → σ → Prop) :
    Coroutine σ α → σ → List (Departure σ) → α → σ → Prop
  | done (result : α) (state : σ) : Run other (.done result) state [] result state
  | step {update : σ → σ} {next : σ → Coroutine σ α} {state last : σ}
      {trace : List (Departure σ)} {result : α}
      (rest : Run other (next state) (update state) trace result last) :
      Run other (.step update next) state (.own state :: trace) result last
  | other {c : Coroutine σ α} {state state' last : σ} {trace : List (Departure σ)} {result : α}
      (change : other state state') (rest : Run other c state' trace result last) :
      Run other c state (.other state :: trace) result last

/-- What a coroutine does alone is one of its runs. -/
theorem Run.alone (other : σ → σ → Prop) (c : Coroutine σ α) (state : σ) :
    ∃ trace, Run other c state trace (c.runAlone state).1 (c.runAlone state).2 := by
  induction c generalizing state with
  | done result => exact ⟨[], .done result state⟩
  | step update next ih =>
      obtain ⟨trace, hrest⟩ := ih state (update state)
      exact ⟨.own state :: trace, .step hrest⟩

/-- A run of two coroutines, one after the other, is a run of the first and one of the second. -/
theorem Run.of_bind {other : σ → σ → Prop} {c : Coroutine σ α} {f : α → Coroutine σ β}
    {state last : σ} {trace : List (Departure σ)} {result : β}
    (h : Run other (c >>= f) state trace result last) :
    ∃ value middle before after, trace = before ++ after ∧ Run other c state before value middle ∧
      Run other (f value) middle after result last := by
  generalize hbind : (c >>= f) = bound at h
  induction h generalizing c with
  | done result state =>
      cases c with
      | done value =>
          rw [done_bind] at hbind
          exact ⟨value, state, [], [], rfl, .done value state, hbind ▸ .done result state⟩
      | step update next => cases hbind
  | step rest ih =>
      cases c with
      | done value =>
          rw [done_bind] at hbind
          exact ⟨value, _, [], _, rfl, .done value _, hbind ▸ .step rest⟩
      | step update next =>
          cases hbind
          obtain ⟨value, middle, before, after, rfl, hfirst, hsecond⟩ := ih rfl
          exact ⟨value, middle, _ :: before, after, rfl, .step hfirst, hsecond⟩
  | other change rest ih =>
      obtain ⟨value, middle, before, after, rfl, hfirst, hsecond⟩ := ih hbind
      exact ⟨value, middle, _ :: before, after, rfl, .other change hfirst, hsecond⟩

theorem Run.of_done {other : σ → σ → Prop} {value result : α} {state last : σ}
    {trace : List (Departure σ)} (h : Run other (.done value) state trace result last) :
    value = result := by
  generalize hdone : (.done value : Coroutine σ α) = c at h
  induction h with
  | done result state => exact Coroutine.done.inj hdone
  | step rest _ => cases hdone
  | other change rest ih => exact ih hdone

/-- A run of a step: others change the state until the step is taken. -/
theorem Run.of_step {other : σ → σ → Prop} {update : σ → σ} {next : σ → Coroutine σ α}
    {state last : σ} {trace : List (Departure σ)} {result : α}
    (h : Run other (.step update next) state trace result last) :
    ∃ first before after, trace = before ++ .own first :: after ∧
      (∀ departure ∈ before, departure.isOther = true) ∧
      Run other (next first) (update first) after result last := by
  generalize hstep : Coroutine.step update next = c at h
  induction h with
  | done result state => cases hstep
  | step rest _ =>
      cases hstep
      exact ⟨_, [], _, rfl, by simp, rest⟩
  | other change rest ih =>
      obtain ⟨first, before, after, rfl, hbefore, hrest⟩ := ih hstep
      refine ⟨first, _ :: before, after, rfl, ?_, hrest⟩
      intro departure hmem
      rcases List.mem_cons.mp hmem with rfl | hmem
      · rfl
      · exact hbefore departure hmem

/-- A run on a part of the state, where others may change anything. -/
theorem Run.of_zoom {other : σ → σ → Prop} {get : σ → τ} {set : σ → τ → σ}
    (hget : ∀ state part, get (set state part) = part) {c : Coroutine τ α} {state last : σ}
    {trace : List (Departure σ)} {result : α}
    (h : Run other (c.zoom get set) state trace result last) :
    Run (fun _ _ => True) c (get state) (trace.map (Departure.map get)) result (get last) := by
  generalize hzoom : c.zoom get set = zoomed at h
  induction h generalizing c with
  | done result state =>
      cases c with
      | done value =>
          cases hzoom
          exact .done _ _
      | step update next => cases hzoom
  | step rest ih =>
      cases c with
      | done value => cases hzoom
      | step update next =>
          cases hzoom
          have hrest := ih rfl
          rw [hget] at hrest
          exact .step hrest
  | other change rest ih => exact .other trivial (ih hzoom)

/-- A run that leaves a state at all starts by leaving its first state. -/
theorem Run.head_untilOwn {other : σ → σ → Prop} {c : Coroutine σ α} {state last : σ}
    {trace : List (Departure σ)} {result : α} (h : Run other c state trace result last)
    (hne : trace ≠ []) : (Departure.untilOwn trace).head? = some state := by
  cases h with
  | done => exact absurd rfl hne
  | step rest => rfl
  | other change rest => rfl

theorem Departure.dropWhile_isOther {before after : List (Departure σ)} {first : σ}
    (hbefore : ∀ departure ∈ before, departure.isOther = true) :
    (before ++ .own first :: after).dropWhile isOther = .own first :: after := by
  rw [List.dropWhile_append_of_pos hbefore]
  rfl

/-- The second step starts in the last of the states between the two. -/
theorem Departure.mem_untilOwn {before after : List (Departure σ)} {second : σ}
    (hbefore : ∀ departure ∈ before, departure.isOther = true) :
    second ∈ untilOwn (before ++ .own second :: after) := by
  induction before with
  | nil => simp [untilOwn]
  | cons departure before ih =>
      cases departure with
      | own state => simpa [isOther] using hbefore (.own state) (by simp)
      | other state =>
          exact List.mem_cons_of_mem _ (ih fun departure hmem => hbefore departure (by simp [hmem]))

/-! ### What the steps of a coroutine do -/

/-- Every step is related by `G`, and every result satisfies `P`. -/
def Within (G : σ → σ → Prop) (P : α → Prop) : Coroutine σ α → Prop
  | .done result => P result
  | .step update next => ∀ state, G state (update state) ∧ (next state).Within G P

/-- Every step but the last is related by `G`; the last one, which starts in `state` and returns
`result`, satisfies `Q`. The steps before it started in `seen`, the latest first. -/
def Conforms (G : σ → σ → Prop) (Q : List σ → σ → α → σ → Prop) :
    List σ → Coroutine σ α → Prop
  | seen, .done result => ∀ state, Q seen state result state
  | seen, .step update next => ∀ state,
      match next state with
      | .done result => Q seen state result (update state)
      | .step _ _ => G state (update state) ∧ (next state).Conforms G Q (state :: seen)

variable {G : σ → σ → Prop} {P : α → Prop} {Q : List σ → σ → α → σ → Prop} {seen : List σ}

theorem within_done_iff {result : α} : (done result : Coroutine σ α).Within G P ↔ P result :=
  Iff.rfl

theorem within_step_iff {update : σ → σ} {next : σ → Coroutine σ α} :
    (step update next).Within G P ↔ ∀ state, G state (update state) ∧ (next state).Within G P :=
  Iff.rfl

theorem conforms_done_iff {result : α} :
    (done result : Coroutine σ α).Conforms G Q seen ↔ ∀ state, Q seen state result state :=
  Iff.rfl

theorem conforms_step_iff {update : σ → σ} {next : σ → Coroutine σ α} :
    (step update next).Conforms G Q seen ↔ ∀ state,
      match next state with
      | .done result => Q seen state result (update state)
      | .step _ _ => G state (update state) ∧ (next state).Conforms G Q (state :: seen) :=
  Iff.rfl

theorem within_atomic {f : σ → α × σ} (hG : ∀ state, G state (f state).2)
    (hP : ∀ state, P (f state).1) : (atomic f).Within G P :=
  fun state => ⟨hG state, hP state⟩

theorem Within.result {other : σ → σ → Prop} {c : Coroutine σ α} (hc : c.Within G P)
    {state last : σ} {trace : List (Departure σ)} {result : α}
    (h : Run other c state trace result last) : P result := by
  induction h with
  | done result state => exact hc
  | step rest ih => exact ih (hc _).2
  | other change rest ih => exact ih hc

theorem Within.after {c : Coroutine σ α} (hc : c.Within G P) (states : List σ) :
    (c.after states).Within G P := by
  induction states generalizing c with
  | nil => rwa [after_nil]
  | cons state states ih =>
      cases c with
      | done result => exact hc
      | step update next => exact ih (hc state).2

theorem Within.advance {c : Coroutine σ α} (hc : c.Within G P) (hrefl : ∀ state, G state state)
    (state : σ) : G state (c.advance state) := by
  cases c with
  | done result => exact hrefl state
  | step update next => exact (hc state).1

theorem within_true (c : Coroutine σ α) : c.Within (fun _ _ => True) fun _ => True := by
  induction c with
  | done result => trivial
  | step update next ih => exact fun state => ⟨trivial, ih state⟩

theorem conforms_atomic {f : σ → α × σ} (h : ∀ state, Q seen state (f state).1 (f state).2) :
    (atomic f).Conforms G Q seen :=
  h

/-- A step that computes a value, and what is done with the value. -/
theorem conforms_atomic_bind {g : σ → β × σ} {f : β → Coroutine σ α}
    (h : ∀ state,
      match f (g state).1 with
      | .done result => Q seen state result (g state).2
      | .step _ _ => G state (g state).2 ∧ (f (g state).1).Conforms G Q (state :: seen)) :
    (atomic g >>= f).Conforms G Q seen :=
  conforms_step_iff.mpr h

/-- A step that may raise, and what follows if it does not. -/
theorem conforms_atomic_andThen {ε : Type} {Q : List σ → σ → Except ε α → σ → Prop}
    {g : σ → Except ε β × σ} {f : β → Coroutine σ (Except ε α)}
    (hraises : ∀ state error, (g state).1 = .error error → Q seen state (.error error) (g state).2)
    (hf : ∀ state value, (g state).1 = .ok value →
      match f value with
      | .done result => Q seen state result (g state).2
      | .step _ _ => G state (g state).2 ∧ (f value).Conforms G Q (state :: seen)) :
    ((atomic g).andThen f).Conforms G Q seen := by
  refine conforms_atomic_bind fun state => ?_
  cases hvalue : (g state).1 with
  | error error => exact hraises state error hvalue
  | ok value =>
      have hnext := hf state value hvalue
      dsimp only
      cases hcase : f value with
      | done result =>
          rw [hcase] at hnext
          exact hnext
      | step update next =>
          rw [hcase] at hnext
          exact hnext

theorem Within.zoom {H : τ → τ → Prop} {get : σ → τ} {set : σ → τ → σ} {c : Coroutine τ α}
    (hc : c.Within H P) (hG : ∀ state part, H (get state) part → G state (set state part)) :
    (c.zoom get set).Within G P := by
  induction c with
  | done result => exact hc
  | step update next ih =>
      intro state
      obtain ⟨hstep, hnext⟩ := hc (get state)
      exact ⟨hG state _ hstep, ih (get state) hnext⟩

theorem Within.seq {c : Coroutine σ β} {P' : β → Prop} {f : β → Coroutine σ α} (hc : c.Within G P')
    (hf : ∀ value, P' value → (f value).Within G P) : (c >>= f).Within G P := by
  induction c with
  | done result => exact hf result hc
  | step update next ih =>
      intro state
      obtain ⟨hstep, hnext⟩ := hc state
      exact ⟨hstep, ih state hnext⟩

theorem Conforms.map {c : Coroutine σ β} {f : β → α}
    (hc : c.Conforms G (fun seen state value state' => Q seen state (f value) state') seen) :
    (c >>= fun value => pure (f value)).Conforms G Q seen := by
  induction c generalizing seen with
  | done result => exact hc
  | step update next ih =>
      intro state
      have hstate := hc state
      cases hcase : next state with
      | done result =>
          simp only [hcase] at hstate
          simpa [Coroutine.bind, hcase] using hstate
      | step update' next' =>
          simp only [hcase] at hstate
          have hrest := ih state (hcase ▸ hstate.2)
          rw [hcase] at hrest
          simpa [Coroutine.bind, hcase] using ⟨hstate.1, hrest⟩

/-- A coroutine within `G` and then one that conforms. Where the second has no step, the return falls
into the last step of the first, so `Q` must allow one more step before the last. -/
theorem Within.bind {c : Coroutine σ β} {P : β → Prop} {f : β → Coroutine σ α} (hc : c.Within G P)
    (hQ : ∀ {seen state state' result state''}, G state state' →
      Q (state :: seen) state' result state'' → Q seen state result state'')
    (hf : ∀ value, P value → ∀ seen, (f value).Conforms G Q seen) (seen : List σ) :
    (c >>= f).Conforms G Q seen := by
  induction c generalizing seen with
  | done result => exact hf result hc seen
  | step update next ih =>
      intro state
      obtain ⟨hstep, hnext⟩ := hc state
      have hrest := ih state hnext (state :: seen)
      change match next state >>= f with
        | .done result => Q seen state result (update state)
        | .step _ _ => G state (update state) ∧ (next state >>= f).Conforms G Q (state :: seen)
      cases hcase : next state >>= f with
      | done result =>
          rw [hcase] at hrest
          exact hQ hstep (hrest (update state))
      | step update' next' => exact ⟨hstep, hcase ▸ hrest⟩

-- a coroutine must not be evaluated to see what a statement about it says
attribute [irreducible] Within Conforms

end Coroutine

end Py
