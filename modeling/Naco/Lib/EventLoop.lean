import Naco.Lib.Coroutine

/-!
# An event loop

Any number of coroutines run on one state. At each move one of them takes its next step, a new request
comes in, or something outside the loop changes the state; a schedule is a list of moves, and nothing
is assumed about their order. The loop keeps a record of the calls that returned, which no coroutine
reads: what a call did is stated over that record.
-/

namespace Py

/-- The state at some time, with the number of calls that had returned by then. -/
structure Moment (σ : Type) where
  state : σ
  returns : Nat

/-- A call in progress, with the moments its steps started at, the latest first. -/
structure Call (σ κ α : Type) where
  request : κ
  seen : List (Moment σ)
  rest : Coroutine σ α

/-- A call that returned: the moment its last step started at, and those of the steps before it. -/
structure Return (σ κ α : Type) where
  request : κ
  result : α
  moment : Moment σ
  seen : List (Moment σ)

/-- The returns are listed with the latest first. -/
structure Loop (σ κ α : Type) where
  state : σ
  calls : List (Call σ κ α) := []
  returned : List (Return σ κ α) := []

inductive Move (κ ε : Type) where
  | outside (event : ε)
  | call (request : κ)
  | resume (index : Nat)

namespace Loop

variable {σ κ α ε : Type}

def now (loop : Loop σ κ α) : Moment σ :=
  ⟨loop.state, loop.returned.length⟩

@[simp]
theorem state_now (loop : Loop σ κ α) : loop.now.state = loop.state :=
  rfl

/-- The call at an index goes on after a step. -/
def pause (loop : Loop σ κ α) (index : Nat) (call : Call σ κ α) (state : σ) (rest : Coroutine σ α) :
    Loop σ κ α :=
  { loop with
    state
    calls := loop.calls.set index { call with seen := loop.now :: call.seen, rest } }

/-- The call at an index returns. -/
def finish (loop : Loop σ κ α) (index : Nat) (call : Call σ κ α) (state : σ) (result : α) :
    Loop σ κ α where
  state
  calls := loop.calls.eraseIdx index
  returned := ⟨call.request, result, loop.now, call.seen⟩ :: loop.returned

/-- The next step of the call at an index. -/
def advance (loop : Loop σ κ α) (index : Nat) (call : Call σ κ α) : Loop σ κ α :=
  match call.rest with
  | .done result => loop.finish index call loop.state result
  | .step update next =>
      match next loop.state with
      | .done result => loop.finish index call (update loop.state) result
      | .step update' next' => loop.pause index call (update loop.state) (.step update' next')

def resume (loop : Loop σ κ α) (index : Nat) : Loop σ κ α :=
  match loop.calls[index]? with
  | none => loop
  | some call => loop.advance index call

variable (body : κ → Coroutine σ α) (react : ε → σ → σ)

def move (loop : Loop σ κ α) : Move κ ε → Loop σ κ α
  | .outside event => { loop with state := react event loop.state }
  | .call request => { loop with calls := loop.calls ++ [⟨request, [], body request⟩] }
  | .resume index => loop.resume index

def run (loop : Loop σ κ α) (schedule : List (Move κ ε)) : Loop σ κ α :=
  schedule.foldl (move body react) loop

theorem run_concat (loop : Loop σ κ α) (schedule : List (Move κ ε)) (m : Move κ ε) :
    loop.run body react (schedule ++ [m]) = (loop.run body react schedule).move body react m := by
  rw [run, List.foldl_append]
  rfl

theorem resume_cases (loop : Loop σ κ α) (index : Nat) :
    loop.resume index = loop ∨
      ∃ before call after, loop.calls = before ++ call :: after ∧ before.length = index ∧
        loop.resume index = loop.advance index call := by
  unfold resume
  cases hcall : loop.calls[index]? with
  | none => exact .inl rfl
  | some call =>
      obtain ⟨hlt, hget⟩ := List.getElem?_eq_some_iff.mp hcall
      refine .inr ⟨loop.calls.take index, call, loop.calls.drop (index + 1), ?_, ?_, rfl⟩
      · rw [← hget, List.getElem_cons_drop, List.take_append_drop]
      · rw [List.length_take]
        omega

theorem advance_of_step {loop : Loop σ κ α} {call : Call σ κ α} {update : σ → σ}
    {next : σ → Coroutine σ α} (hrest : call.rest = .step update next)
    (hnext : ∀ result, next loop.state ≠ .done result) (index : Nat) :
    loop.advance index call = loop.pause index call (update loop.state) (next loop.state) := by
  unfold advance
  rw [hrest]
  dsimp only
  cases hcase : next loop.state with
  | done result => exact absurd hcase (hnext result)
  | step update' next' => rfl

theorem advance_of_last {loop : Loop σ κ α} {call : Call σ κ α} {update : σ → σ}
    {next : σ → Coroutine σ α} {result : α} (hrest : call.rest = .step update next)
    (hnext : next loop.state = .done result) (index : Nat) :
    loop.advance index call = loop.finish index call (update loop.state) result := by
  unfold advance
  rw [hrest]
  dsimp only
  rw [hnext]

theorem advance_atomic {loop : Loop σ κ α} {call : Call σ κ α} {f : σ → α × σ}
    (hrest : call.rest = .atomic f) (index : Nat) :
    loop.advance index call =
      loop.finish index call (call.rest.runAlone loop.state).2 (call.rest.runAlone loop.state).1 := by
  rw [hrest]
  exact advance_of_last hrest rfl index

theorem state_advance (loop : Loop σ κ α) (index : Nat) (call : Call σ κ α) :
    (loop.advance index call).state = call.rest.advance loop.state := by
  unfold advance
  cases call.rest with
  | done result => rfl
  | step update next =>
      dsimp only
      split <;> rfl

theorem state_resume_of_call {loop : Loop σ κ α} {index : Nat} {call : Call σ κ α}
    (hcall : loop.calls[index]? = some call) :
    (loop.resume index).state = call.rest.advance loop.state := by
  rw [resume, hcall]
  exact state_advance loop index call

theorem calls_pause {loop : Loop σ κ α} {before after : List (Call σ κ α)} {call : Call σ κ α}
    (hcalls : loop.calls = before ++ call :: after) (state : σ) (rest : Coroutine σ α) :
    (loop.pause before.length call state rest).calls =
      before ++ { call with seen := loop.now :: call.seen, rest } :: after := by
  simp [pause, hcalls]

theorem calls_finish {loop : Loop σ κ α} {before after : List (Call σ κ α)} {call : Call σ κ α}
    (hcalls : loop.calls = before ++ call :: after) (state : σ) (result : α) :
    (loop.finish before.length call state result).calls = before ++ after := by
  simp [finish, hcalls, List.eraseIdx_append_of_length_le]

theorem mem_returned_move {loop : Loop σ κ α} {ret : Return σ κ α} (hret : ret ∈ loop.returned)
    (m : Move κ ε) : ret ∈ (loop.move body react m).returned := by
  cases m with
  | outside event => exact hret
  | call request => exact hret
  | resume index =>
      simp only [move, resume]
      split
      · exact hret
      · next call _ =>
          unfold advance
          split
          · exact List.mem_cons_of_mem _ hret
          · split
            · exact List.mem_cons_of_mem _ hret
            · exact hret

/-! ### Traces

What a call in progress still has to do, and what a call has returned, is determined by the states that
its steps started in.
-/

end Loop

section

variable {σ κ α : Type}

/-- The states that the steps of a call started in, the first one first. -/
def Call.states (call : Call σ κ α) : List σ :=
  (call.seen.map (·.state)).reverse

def Return.states (ret : Return σ κ α) : List σ :=
  (ret.seen.map (·.state)).reverse ++ [ret.moment.state]

end

namespace Loop

variable {σ κ α ε : Type} (body : κ → Coroutine σ α) (react : ε → σ → σ)

structure Traced (loop : Loop σ κ α) : Prop where
  calls : ∀ call ∈ loop.calls, call.rest = (body call.request).after call.states
  returns : ∀ ret ∈ loop.returned, (body ret.request).after ret.states = .done ret.result

variable {body} in
theorem traced_advance {loop : Loop σ κ α} (h : loop.Traced body) {call : Call σ κ α}
    (hcall : call ∈ loop.calls) (index : Nat) : (loop.advance index call).Traced body := by
  have hrest := h.calls call hcall
  have hnow : (body call.request).after (call.states ++ [loop.state]) = call.rest.after [loop.state] := by
    rw [Coroutine.after_concat, ← hrest]
  have hfinish (result : α) (state : σ) (hresult : call.rest.after [loop.state] = .done result) :
      (loop.finish index call state result).Traced body := by
    refine ⟨fun other hother => h.calls other (List.mem_of_mem_eraseIdx hother), fun ret hret => ?_⟩
    rcases List.mem_cons.mp hret with rfl | hmem
    · exact hnow.trans hresult
    · exact h.returns ret hmem
  unfold advance
  split
  · next result hdone => exact hfinish result loop.state (by rw [hdone]; rfl)
  · next update next hstep =>
      have hafter : call.rest.after [loop.state] = next loop.state := by
        rw [hstep, Coroutine.after_step, Coroutine.after_nil]
      split
      · next result hresult => exact hfinish result _ (hafter.trans hresult)
      · next update' next' hpause =>
          refine ⟨fun other hother => ?_, h.returns⟩
          rcases List.mem_or_eq_of_mem_set hother with hmem | rfl
          · exact h.calls other hmem
          · rw [← hpause, ← hafter, ← hnow]
            simp [Call.states]

theorem traced_run {loop : Loop σ κ α} (h : loop.Traced body) (schedule : List (Move κ ε)) :
    (loop.run body react schedule).Traced body := by
  induction schedule generalizing loop with
  | nil => exact h
  | cons m schedule ih =>
      refine ih ?_
      cases m with
      | outside event => exact ⟨h.calls, h.returns⟩
      | call request =>
          refine ⟨fun call hcall => ?_, h.returns⟩
          rcases List.mem_append.mp hcall with hmem | hnew
          · exact h.calls call hmem
          · rw [List.mem_singleton.mp hnew]
            simp [Call.states]
      | resume index =>
          change (loop.resume index).Traced body
          rcases resume_cases loop index with hidle | ⟨before, call, after, hcalls, -, hadvance⟩
          · rw [hidle]
            exact h
          · rw [hadvance]
            exact traced_advance h (by simp [hcalls]) index

theorem traced_empty (state : σ) : (⟨state, [], []⟩ : Loop σ κ α).Traced body :=
  ⟨by simp, by simp⟩

/-- Where all steps of all bodies are related by `G`, so is each step of a call. -/
theorem Traced.resume {body : κ → Coroutine σ α} {loop : Loop σ κ α} (h : loop.Traced body)
    {G : σ → σ → Prop} {P : α → Prop} (hbody : ∀ request, (body request).Within G P)
    (hrefl : ∀ state, G state state) (index : Nat) : G loop.state (loop.resume index).state := by
  cases hcall : loop.calls[index]? with
  | none =>
      rw [Loop.resume, hcall]
      exact hrefl loop.state
  | some call =>
      rw [state_resume_of_call hcall, h.calls call (List.mem_of_getElem? hcall)]
      exact ((hbody call.request).after call.states).advance hrefl loop.state

/-! ### Invariants

Where every request conforms to what its steps may do (`G`) and how it may return (`Q`), a move is one
of the five cases of `Progress`, whatever the coroutines are.
-/

variable (G : κ → σ → σ → Prop) (Q : κ → List σ → σ → α → σ → Prop)

inductive Progress (loop : Loop σ κ α) : Loop σ κ α → Prop
  | idle : Progress loop loop
  | outside (event : ε) : Progress loop { loop with state := react event loop.state }
  | called (request : κ) :
      Progress loop { loop with calls := loop.calls ++ [⟨request, [], body request⟩] }
  | paused {index : Nat} {call : Call σ κ α} {state : σ} (rest : Coroutine σ α)
      (hcall : call ∈ loop.calls) (hstep : G call.request loop.state state) :
      Progress loop (loop.pause index call state rest)
  | returned {index : Nat} {call : Call σ κ α} {state : σ} {result : α} (hcall : call ∈ loop.calls)
      (hlast : Q call.request (call.seen.map (·.state)) loop.state result state) :
      Progress loop (loop.finish index call state result)

/-- A move either adds nothing to the record or ends one call. -/
theorem Progress.cases_returned {body : κ → Coroutine σ α} {react : ε → σ → σ}
    {G : κ → σ → σ → Prop} {Q : κ → List σ → σ → α → σ → Prop} {loop loop' : Loop σ κ α}
    (h : Progress body react G Q loop loop') :
    (loop'.returned = loop.returned ∧
      (loop'.state = loop.state ∨ (∃ event, loop'.state = react event loop.state) ∨
        ∃ request, G request loop.state loop'.state)) ∨
    ∃ ret, loop'.returned = ret :: loop.returned ∧ ret.moment = loop.now ∧
      Q ret.request (ret.seen.map (·.state)) loop.state ret.result loop'.state := by
  cases h with
  | idle => exact .inl ⟨rfl, .inl rfl⟩
  | outside event => exact .inl ⟨rfl, .inr (.inl ⟨event, rfl⟩)⟩
  | called request => exact .inl ⟨rfl, .inl rfl⟩
  | @paused index call state rest hcall hstep =>
      exact .inl ⟨rfl, .inr (.inr ⟨call.request, hstep⟩)⟩
  | returned hcall hlast => exact .inr ⟨_, rfl, rfl, hlast⟩

/-- Every call in progress conforms to its request. -/
def Conforming (loop : Loop σ κ α) : Prop :=
  ∀ call ∈ loop.calls,
    call.rest.Conforms (G call.request) (Q call.request) (call.seen.map (·.state))

variable {body react G Q} {loop : Loop σ κ α}

theorem conforming_pause {index : Nat} {call : Call σ κ α} {state : σ} {rest : Coroutine σ α}
    (hloop : loop.Conforming G Q)
    (hrest : rest.Conforms (G call.request) (Q call.request)
      (loop.state :: call.seen.map (·.state))) :
    (loop.pause index call state rest).Conforming G Q := by
  intro found hfound
  rcases List.mem_or_eq_of_mem_set hfound with hmem | rfl
  · exact hloop found hmem
  · exact hrest

theorem conforming_finish {index : Nat} {call : Call σ κ α} {state : σ} {result : α}
    (hloop : loop.Conforming G Q) : (loop.finish index call state result).Conforming G Q :=
  fun found hfound => hloop found (List.mem_of_mem_eraseIdx hfound)

theorem progress_advance (hloop : loop.Conforming G Q) {call : Call σ κ α}
    (hcall : call ∈ loop.calls) (index : Nat) :
    Progress body react G Q loop (loop.advance index call) ∧
      (loop.advance index call).Conforming G Q := by
  obtain ⟨request, seen, rest⟩ := call
  have hrest := hloop _ hcall
  cases rest with
  | done result =>
      exact ⟨.returned hcall (Coroutine.conforms_done_iff.mp hrest loop.state),
        conforming_finish hloop⟩
  | step update next =>
      have hstate := Coroutine.conforms_step_iff.mp hrest loop.state
      simp only [advance]
      cases hnext : next loop.state with
      | done result =>
          simp only [hnext] at hstate
          exact ⟨.returned hcall hstate, conforming_finish hloop⟩
      | step update' next' =>
          simp only [hnext] at hstate
          exact ⟨.paused _ hcall hstate.1, conforming_pause hloop hstate.2⟩

theorem progress_resume (hloop : loop.Conforming G Q) (index : Nat) :
    Progress body react G Q loop (loop.resume index) ∧ (loop.resume index).Conforming G Q := by
  unfold resume
  split
  · exact ⟨.idle, hloop⟩
  · next call hindex => exact progress_advance hloop (List.mem_of_getElem? hindex) index

theorem progress_move (hbody : ∀ request, (body request).Conforms (G request) (Q request) [])
    (hloop : loop.Conforming G Q) (m : Move κ ε) :
    Progress body react G Q loop (loop.move body react m) ∧
      (loop.move body react m).Conforming G Q := by
  cases m with
  | outside event => exact ⟨.outside event, hloop⟩
  | call request =>
      refine ⟨.called request, fun call hcall => ?_⟩
      rcases List.mem_append.mp hcall with hmem | hnew
      · exact hloop call hmem
      · rw [List.mem_singleton.mp hnew]
        exact hbody request
  | resume index => exact progress_resume hloop index

theorem conforming_run (hbody : ∀ request, (body request).Conforms (G request) (Q request) [])
    (hloop : loop.Conforming G Q) (schedule : List (Move κ ε)) :
    (loop.run body react schedule).Conforming G Q := by
  induction schedule generalizing loop with
  | nil => exact hloop
  | cons m schedule ih =>
      obtain ⟨-, hnext⟩ : Progress body react G Q loop (loop.move body react m) ∧ _ :=
        progress_move hbody hloop m
      exact ih hnext

/-- What every progress of a conforming loop preserves holds after every schedule. -/
theorem run_invariant (hbody : ∀ request, (body request).Conforms (G request) (Q request) [])
    {I : Loop σ κ α → Prop}
    (hprogress : ∀ loop loop', I loop → Progress body react G Q loop loop' → I loop')
    (hloop : loop.Conforming G Q) (hinit : I loop) (schedule : List (Move κ ε)) :
    I (loop.run body react schedule) := by
  induction schedule generalizing loop with
  | nil => exact hinit
  | cons m schedule ih =>
      obtain ⟨hmove, hnext⟩ : Progress body react G Q loop (loop.move body react m) ∧ _ :=
        progress_move hbody hloop m
      exact ih hnext (hprogress loop _ hinit hmove)

end Loop

end Py
