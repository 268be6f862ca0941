import Naco.Reevaluate

/-!
# No reason is lost

`schedule` may run at any `await` of the task: before the event is looked at, during the delay, or while
a re-evaluation is under way. A reason that is pending keeps the event set, so the task always comes to
the point where it takes the whole list.
-/

namespace Naco

open Py

/-- The reasons of the calls of `schedule`, in order. -/
def scheduled (moves : List WorkerMove) : List String :=
  moves.filterMap fun
    | .schedule reason => some reason
    | .resume _ => none

/-- How often the task goes on. -/
def turns (moves : List WorkerMove) : Nat :=
  (moves.filter fun
    | .schedule _ => false
    | .resume _ => true).length

@[simp]
theorem scheduled_append (front back : List WorkerMove) :
    scheduled (front ++ back) = scheduled front ++ scheduled back :=
  List.filterMap_append

@[simp]
theorem turns_schedule (reason : String) (moves : List WorkerMove) :
    turns (.schedule reason :: moves) = turns moves :=
  rfl

@[simp]
theorem turns_resume (result : Except Error ReevalSummary) (moves : List WorkerMove) :
    turns (.resume result :: moves) = turns moves + 1 :=
  rfl

theorem Worker.run_append (worker : Worker) (front back : List WorkerMove) :
    worker.run (front ++ back) = (worker.run front).run back :=
  List.foldl_append

/-- What a turn of the task can do. -/
theorem Worker.resume_cases (worker : Worker) (result : Except Error ReevalSummary) :
    (worker.awaiting = .sleep ∧ worker.resume result =
      { self := {}, awaiting := .reevaluate, calls := worker.calls ++ [worker.self.reasons] }) ∨
    (worker.awaiting ≠ .sleep ∧ worker.resume result =
      { worker with awaiting := if worker.self.wake then .sleep else .event }) := by
  obtain ⟨self, awaiting, calls⟩ := worker
  cases awaiting with
  | start => exact .inr ⟨nofun, rfl⟩
  | event =>
      refine .inr ⟨nofun, ?_⟩
      cases hwake : self.wake <;> simp [Worker.resume, hwake]
  | sleep => exact .inl ⟨rfl, rfl⟩
  | reevaluate =>
      refine .inr ⟨nofun, ?_⟩
      cases result <;> rfl

/-- Every reason was passed or is pending, in the order of the calls of `schedule`, and one that is
pending keeps the event set. -/
structure Worker.Keeps (worker : Worker) (reasons : List String) : Prop where
  order : worker.calls.flatten ++ worker.self.reasons = reasons
  event : worker.self.wake = false → worker.self.reasons = []

theorem Worker.Keeps.move {worker : Worker} {reasons : List String} (h : worker.Keeps reasons)
    (m : WorkerMove) : (worker.move m).Keeps (reasons ++ scheduled [m]) := by
  cases m with
  | schedule reason =>
      refine ⟨?_, nofun⟩
      rw [← h.order, List.append_assoc]
      rfl
  | resume result =>
      have hnothing : scheduled [.resume result] = [] := rfl
      rw [hnothing, List.append_nil, Worker.move]
      rcases worker.resume_cases result with ⟨-, hresume⟩ | ⟨-, hresume⟩
      · rw [hresume]
        refine ⟨?_, fun _ => rfl⟩
        rw [← h.order, List.flatten_append, List.flatten_singleton, List.append_nil]
      · rw [hresume]
        exact ⟨h.order, h.event⟩

theorem Worker.Keeps.run {worker : Worker} {reasons : List String} (h : worker.Keeps reasons)
    (moves : List WorkerMove) : (worker.run moves).Keeps (reasons ++ scheduled moves) := by
  induction moves generalizing worker reasons with
  | nil =>
      rw [show scheduled [] = [] from rfl, List.append_nil]
      exact h
  | cons m moves ih =>
      have hnext := ih (h.move m)
      rwa [List.append_assoc, ← scheduled_append] at hnext

theorem keeps_start : ({} : Worker).Keeps [] :=
  ⟨rfl, fun _ => rfl⟩

/-- Calls are only added. -/
theorem Worker.exists_calls_run (worker : Worker) (moves : List WorkerMove) :
    ∃ later, (worker.run moves).calls = worker.calls ++ later := by
  induction moves generalizing worker with
  | nil => exact ⟨[], (List.append_nil _).symm⟩
  | cons m moves ih =>
      obtain ⟨later, hlater⟩ := ih (worker.move m)
      have hmove : ∃ added, (worker.move m).calls = worker.calls ++ added := by
        cases m with
        | schedule reason => exact ⟨[], (List.append_nil _).symm⟩
        | resume result =>
            rw [Worker.move]
            rcases worker.resume_cases result with ⟨-, hresume⟩ | ⟨-, hresume⟩
            · exact ⟨[worker.self.reasons], by rw [hresume]⟩
            · exact ⟨[], by rw [hresume, List.append_nil]⟩
      obtain ⟨added, hadded⟩ := hmove
      refine ⟨added ++ later, ?_⟩
      rw [← List.append_assoc, ← hadded]
      exact hlater

/-- With the event set, the next call takes all that is pending, and it starts at the latest when the
task goes on for the second time. -/
theorem Worker.exists_next_call {worker : Worker} (hwake : worker.self.wake = true)
    {moves : List WorkerMove}
    (hturns : (if worker.awaiting = .sleep then 1 else 2) ≤ turns moves) :
    ∃ more later, (worker.run moves).calls =
      worker.calls ++ (worker.self.reasons ++ more) :: later := by
  induction moves generalizing worker with
  | nil =>
      change _ ≤ 0 at hturns
      split at hturns <;> omega
  | cons m moves ih =>
      cases m with
      | schedule reason =>
          have hnext : (worker.move (.schedule reason)).self.wake = true := rfl
          obtain ⟨more, later, hcalls⟩ := ih hnext hturns
          exact ⟨reason :: more, later, hcalls.trans (by simp [Worker.move, Reevaluator.schedule])⟩
      | resume result =>
          rw [turns_resume] at hturns
          change ∃ more later, ((worker.resume result).run moves).calls = _
          rcases worker.resume_cases result with ⟨-, hresume⟩ | ⟨hawaiting, hresume⟩
          · obtain ⟨later, hcalls⟩ := (worker.resume result).exists_calls_run moves
            refine ⟨[], later, ?_⟩
            rw [hcalls, hresume, List.append_assoc, List.append_nil]
            rfl
          · rw [if_neg hawaiting] at hturns
            rw [hwake, if_pos rfl] at hresume
            rw [hresume]
            refine ih hwake ?_
            change 1 ≤ turns moves
            omega

/-- A call takes the reason that follows these in the order of all that are passed. -/
def Passes (calls : List (List String)) (earlier : List String) (reason : String) (index : Nat) : Prop :=
  ∃ front back, calls[index]? = some (front ++ reason :: back) ∧
    (calls.take index).flatten ++ front = earlier

/-- No two calls take the same place in the order. -/
theorem Passes.not_lt {calls : List (List String)} {earlier : List String} {reason : String}
    {index index' : Nat} (h : Passes calls earlier reason index)
    (h' : Passes calls earlier reason index') : ¬ index < index' := by
  intro hlt
  obtain ⟨front, back, hget, horder⟩ := h
  obtain ⟨front', back', hget', horder'⟩ := h'
  obtain ⟨hindex, hcall⟩ := List.getElem?_eq_some_iff.mp hget
  have hsplit : calls.take index' =
      calls.take index ++ (front ++ reason :: back) :: (calls.take index').drop (index + 1) := by
    have hlength : index < (calls.take index').length := by
      rw [List.length_take]
      have hlt' := (List.getElem?_eq_some_iff.mp hget').1
      omega
    conv_lhs => rw [← List.take_append_drop index (calls.take index')]
    rw [List.take_take, Nat.min_eq_left (Nat.le_of_lt hlt), List.drop_eq_getElem_cons hlength,
      List.getElem_take, hcall]
  have hlengths := congrArg List.length (horder.trans horder'.symm)
  rw [hsplit] at hlengths
  simp only [List.flatten_append, List.flatten_cons, List.length_append, List.length_cons] at hlengths
  omega

/-- Whatever the order of the moves: all reasons are passed or pending, none twice, in their order;
nothing is pending while the task waits for the event; and a reason is passed to one call, which starts
after `schedule` was called with it and at the latest when the task goes on for the second time. -/
theorem reasons_passed_once (moves : List WorkerMove) :
    (({} : Worker).run moves).calls.flatten ++ (({} : Worker).run moves).self.reasons =
      scheduled moves ∧
    ((({} : Worker).run moves).awaiting = .event → (({} : Worker).run moves).self.wake = false →
      (({} : Worker).run moves).self.reasons = []) ∧
    ∀ before reason after, moves = before ++ .schedule reason :: after → 2 ≤ turns after →
      ∃ index, Passes (({} : Worker).run moves).calls (scheduled before) reason index ∧
        (({} : Worker).run before).calls.length ≤ index ∧
        ∀ other, Passes (({} : Worker).run moves).calls (scheduled before) reason other →
          other = index := by
  have hkeeps := keeps_start.run moves
  refine ⟨hkeeps.order, fun _ => hkeeps.event, ?_⟩
  intro before reason after hmoves hturns
  have hbefore := (keeps_start.run before).order
  generalize hworker : ({} : Worker).run before = worker at hbefore
  have hrun : ({} : Worker).run moves = (worker.move (.schedule reason)).run after := by
    rw [hmoves, Worker.run_append, hworker]
    rfl
  have hwake : (worker.move (.schedule reason)).self.wake = true := rfl
  obtain ⟨more, later, hcalls⟩ := Worker.exists_next_call hwake
    (by split <;> omega : (if (worker.move (.schedule reason)).awaiting = .sleep then 1 else 2) ≤ turns after)
  rw [← hrun] at hcalls
  have hpasses : Passes (({} : Worker).run moves).calls (scheduled before) reason worker.calls.length := by
    refine ⟨worker.self.reasons, more, ?_, ?_⟩
    · rw [hcalls]
      simp [Worker.move, Reevaluator.schedule]
    · rw [hcalls, List.take_left' (by rfl)]
      exact hbefore
  refine ⟨worker.calls.length, hpasses, Nat.le_refl _, fun other hother => ?_⟩
  have hnot := hpasses.not_lt hother
  have hnot' := hother.not_lt hpasses
  omega

/-- A guest is revoked while a re-evaluation is under way, which then fails. -/
def revokedMeanwhile : List WorkerMove :=
  [.resume (.ok {}), .schedule "policy guests changed", .resume (.ok {}), .resume (.ok {})]

theorem reasons_passed_once_revoked :
    ∃ index, Passes (({} : Worker).run (revokedMeanwhile ++ .schedule "guest revoked" ::
        [.resume (.error (.valueError "database is locked")), .resume (.ok {})])).calls
          (scheduled revokedMeanwhile) "guest revoked" index ∧
      (({} : Worker).run revokedMeanwhile).calls.length ≤ index ∧
      ∀ other, Passes (({} : Worker).run (revokedMeanwhile ++ .schedule "guest revoked" ::
        [.resume (.error (.valueError "database is locked")), .resume (.ok {})])).calls
          (scheduled revokedMeanwhile) "guest revoked" other → other = index :=
  (reasons_passed_once _).2.2 revokedMeanwhile "guest revoked" _ rfl (Nat.le_refl 2)

end Naco
