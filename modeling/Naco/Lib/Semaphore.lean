import Mathlib.Data.List.Count
import Mathlib.Data.List.Induction
import Mathlib.Data.List.Nodup
import Mathlib.Tactic.Common

/-!
# Jobs behind a semaphore

`asyncio.gather` over coroutines that each do their work inside of `async with semaphore`. A job takes a
permit, or waits in line until one is handed to it, works, and gives the permit back when its work has a
result. The loop may run the jobs in any order, and what happens to a job that is at work is not said
here: its work is any state with moves of its own.
-/

namespace Py

/-- A future that a job waits on, and whether it has its result. -/
structure Waiter where
  job : Nat
  woken : Bool
  deriving DecidableEq, Repr

/-- `asyncio.Semaphore`. -/
structure Semaphore where
  value : Nat
  waiters : List Waiter := []
  deriving DecidableEq, Repr

namespace Semaphore

/-- `locked()`. -/
def locked (s : Semaphore) : Bool :=
  s.value = 0 || s.waiters ≠ []

/-- The first waiter that is not woken yet gets its result, if there is one. -/
def wakeFirst : List Waiter → Option (List Waiter)
  | [] => none
  | waiter :: waiters =>
      if waiter.woken then (wakeFirst waiters).map (waiter :: ·)
      else some ({ waiter with woken := true } :: waiters)

/-- `release()`. -/
def release (s : Semaphore) : Semaphore :=
  match wakeFirst s.waiters with
  | none => { s with value := s.value + 1 }
  | some waiters => { s with waiters }

/-- The loop at the end of `acquire()`. -/
def wakeAll : Nat → List Waiter → Semaphore
  | 0, waiters => ⟨0, waiters⟩
  | value + 1, waiters =>
      match wakeFirst waiters with
      | none => ⟨value + 1, waiters⟩
      | some waiters => wakeAll value waiters

/-- `acquire()` after its future has the result. -/
def leave (s : Semaphore) (job : Nat) : Semaphore :=
  wakeAll s.value (s.waiters.filter (·.job ≠ job))

/-- The permits handed to jobs that have not gone on yet. -/
def promised (s : Semaphore) : Nat :=
  s.waiters.countP (·.woken)

/-- A permit is free while jobs wait only as long as one of them was handed its own: that one looks
after the others when it goes on. -/
def Fair (s : Semaphore) : Prop :=
  s.value = 0 ∨ s.waiters = [] ∨ ∃ waiter ∈ s.waiters, waiter.woken = true

theorem wakeFirst_eq_none_iff {waiters : List Waiter} :
    wakeFirst waiters = none ↔ ∀ waiter ∈ waiters, waiter.woken = true := by
  induction waiters with
  | nil => simp [wakeFirst]
  | cons waiter waiters ih =>
      rw [wakeFirst, List.forall_mem_cons]
      cases waiter.woken <;> simp [ih]

theorem wakeFirst_eq_some {waiters woken : List Waiter} (h : wakeFirst waiters = some woken) :
    woken.map (·.job) = waiters.map (·.job) ∧
      woken.countP (·.woken) = waiters.countP (·.woken) + 1 := by
  induction waiters generalizing woken with
  | nil => cases h
  | cons waiter waiters ih =>
      rw [wakeFirst] at h
      cases hwoken : waiter.woken with
      | true =>
          rw [hwoken, if_pos rfl, Option.map_eq_some_iff] at h
          obtain ⟨later, hlater, rfl⟩ := h
          obtain ⟨hjobs, hcount⟩ := ih hlater
          simp [hjobs, hcount, hwoken]
      | false =>
          rw [hwoken, if_neg Bool.false_ne_true] at h
          obtain rfl := Option.some.inj h
          simp [hwoken]

theorem fair_of_forall {s : Semaphore} (h : ∀ waiter ∈ s.waiters, waiter.woken = true) : s.Fair := by
  cases hwaiters : s.waiters with
  | nil => exact .inr (.inl hwaiters)
  | cons waiter waiters =>
      have hmem : waiter ∈ s.waiters := hwaiters ▸ List.mem_cons_self
      exact .inr (.inr ⟨waiter, hmem, h waiter hmem⟩)

theorem release_spec (s : Semaphore) :
    s.release.waiters.map (·.job) = s.waiters.map (·.job) ∧
      s.release.value + s.release.promised = s.value + s.promised + 1 ∧ s.release.Fair := by
  unfold release
  cases hwake : wakeFirst s.waiters with
  | none =>
      refine ⟨rfl, ?_, fair_of_forall (wakeFirst_eq_none_iff.mp hwake)⟩
      simp only [promised]
      omega
  | some waiters =>
      obtain ⟨hjobs, hcount⟩ := wakeFirst_eq_some hwake
      refine ⟨hjobs, ?_, .inr (.inr ?_)⟩
      · simp only [promised, hcount]
        omega
      · exact List.countP_pos_iff.mp (Nat.lt_of_lt_of_eq (Nat.succ_pos _) hcount.symm)

theorem wakeAll_spec (value : Nat) (waiters : List Waiter) :
    (wakeAll value waiters).waiters.map (·.job) = waiters.map (·.job) ∧
      (wakeAll value waiters).value + (wakeAll value waiters).promised =
        value + waiters.countP (·.woken) ∧ (wakeAll value waiters).Fair := by
  induction value generalizing waiters with
  | zero => exact ⟨rfl, rfl, .inl rfl⟩
  | succ value ih =>
      rw [wakeAll]
      cases hwake : wakeFirst waiters with
      | none => exact ⟨rfl, rfl, fair_of_forall (wakeFirst_eq_none_iff.mp hwake)⟩
      | some woken =>
          obtain ⟨hjobs, hcount⟩ := wakeFirst_eq_some hwake
          obtain ⟨hjobs', hcount', hfair⟩ := ih woken
          refine ⟨hjobs'.trans hjobs, ?_, hfair⟩
          dsimp only
          omega

theorem leave_spec {s : Semaphore} (hnodup : (s.waiters.map (·.job)).Nodup) {job : Nat}
    (hwoken : ⟨job, true⟩ ∈ s.waiters) :
    (s.leave job).waiters.map (·.job) = (s.waiters.map (·.job)).filter (· ≠ job) ∧
      (s.leave job).value + (s.leave job).promised + 1 = s.value + s.promised ∧ (s.leave job).Fair := by
  obtain ⟨hjobs, hcount, hfair⟩ := wakeAll_spec s.value (s.waiters.filter (·.job ≠ job))
  refine ⟨?_, ?_, hfair⟩
  · rw [leave, hjobs, List.filter_map]
    rfl
  · obtain ⟨before, after, hsplit⟩ := List.append_of_mem hwoken
    rw [hsplit, List.map_append, List.map_cons, List.nodup_middle, List.nodup_cons] at hnodup
    have hothers : ∀ waiter ∈ before ++ after, decide (waiter.job ≠ job) = true := by
      intro waiter hwaiter
      refine decide_eq_true fun hsame => hnodup.1 ?_
      rw [← List.map_append]
      exact List.mem_map.mpr ⟨waiter, hwaiter, hsame⟩
    have hkept : s.waiters.filter (·.job ≠ job) = before ++ after := by
      rw [hsplit, List.filter_append, List.filter_cons_of_neg (by simp), ← List.filter_append,
        List.filter_eq_self.mpr hothers]
    have hone : s.promised = (before ++ after).countP (·.woken) + 1 := by
      rw [promised, hsplit, List.countP_append, List.countP_append, List.countP_cons, if_pos rfl]
      omega
    rw [hkept] at hcount
    rw [leave, hkept]
    omega

end Semaphore

/-! ### Jobs -/

/-- The work of a job: how it starts for a request, what happens to it, and its result. -/
structure Work (κ ω μ ρ : Type) where
  start : κ → ω
  move : ω → μ → ω
  result : ω → Option ρ

inductive JobStage (ω ρ : Type) where
  | unstarted
  | waiting
  | inside (state : ω)
  | ended (result : ρ)

def JobStage.isInside {ω ρ : Type} : JobStage ω ρ → Bool
  | .inside _ => true
  | _ => false

def JobStage.result? {ω ρ : Type} : JobStage ω ρ → Option ρ
  | .ended result => some result
  | _ => none

structure Job (κ ω ρ : Type) where
  request : κ
  stage : JobStage ω ρ := .unstarted

/-- The jobs of one `gather`, and the results in the order they came. -/
structure Pool (κ ω ρ : Type) where
  semaphore : Semaphore
  jobs : List (Job κ ω ρ)
  returned : List (Nat × ρ) := []

/-- The loop starts a job, or goes on with one whose future has its result, or something happens to the
work of one. -/
inductive JobAction (μ : Type) where
  | start
  | wake
  | work (move : μ)

structure PoolMove (μ : Type) where
  job : Nat
  action : JobAction μ

namespace Pool

variable {κ ω μ ρ : Type} (work : Work κ ω μ ρ)

def init (limit : Nat) (requests : List κ) : Pool κ ω ρ where
  semaphore := ⟨limit, []⟩
  jobs := requests.map fun request => { request }

def atStage (pool : Pool κ ω ρ) (index : Nat) (job : Job κ ω ρ) (stage : JobStage ω ρ) :
    List (Job κ ω ρ) :=
  pool.jobs.set index { job with stage }

/-- A job that holds a permit; with its result it leaves the `async with`. -/
def place (pool : Pool κ ω ρ) (index : Nat) (job : Job κ ω ρ) (state : ω) : Pool κ ω ρ :=
  match work.result state with
  | none => { pool with jobs := pool.atStage index job (.inside state) }
  | some result =>
      { semaphore := pool.semaphore.release
        jobs := pool.atStage index job (.ended result)
        returned := pool.returned ++ [(index, result)] }

/-- `acquire()` of a job that starts. -/
def acquire (pool : Pool κ ω ρ) (index : Nat) (job : Job κ ω ρ) : Pool κ ω ρ :=
  let s := pool.semaphore
  if s.locked then
    { pool with
      semaphore := { s with waiters := s.waiters ++ [⟨index, false⟩] }
      jobs := pool.atStage index job .waiting }
  else
    place work { pool with semaphore := { s with value := s.value - 1 } } index job
      (work.start job.request)

/-- A job whose future has its result goes on. -/
def resume (pool : Pool κ ω ρ) (index : Nat) (job : Job κ ω ρ) : Pool κ ω ρ :=
  if ⟨index, true⟩ ∈ pool.semaphore.waiters then
    place work { pool with semaphore := pool.semaphore.leave index } index job
      (work.start job.request)
  else pool

def act (pool : Pool κ ω ρ) (index : Nat) (job : Job κ ω ρ) (action : JobAction μ) : Pool κ ω ρ :=
  match job.stage, action with
  | .unstarted, .start => acquire work pool index job
  | .waiting, .wake => resume work pool index job
  | .inside state, .work move => place work pool index job (work.move state move)
  | _, _ => pool

def move (pool : Pool κ ω ρ) (m : PoolMove μ) : Pool κ ω ρ :=
  match pool.jobs[m.job]? with
  | none => pool
  | some job => act work pool m.job job m.action

def run (pool : Pool κ ω ρ) (moves : List (PoolMove μ)) : Pool κ ω ρ :=
  moves.foldl (move work) pool

/-- What `gather` returns of the jobs that have ended, in their order. -/
def outcomes (pool : Pool κ ω ρ) : List ρ :=
  pool.jobs.filterMap (·.stage.result?)

/-- The number of jobs at work. -/
def inside (pool : Pool κ ω ρ) : Nat :=
  pool.jobs.countP (·.stage.isInside)

/-- The number of jobs that have no result yet. -/
def unended (pool : Pool κ ω ρ) : Nat :=
  pool.jobs.countP (·.stage.result?.isNone)

/-- Something can happen: a job can start, one was handed its permit, or one is at work. -/
def Runnable (pool : Pool κ ω ρ) : Prop :=
  (∃ job ∈ pool.jobs, job.stage = .unstarted ∨ job.stage.isInside = true) ∨
    ∃ index, ⟨index, true⟩ ∈ pool.semaphore.waiters

/-! ### The permits -/

/-- Every permit is free, promised, or with a job at work; those in line wait, and those that returned
have ended. -/
structure Sound (limit : Nat) (pool : Pool κ ω ρ) : Prop where
  permits : pool.semaphore.value + pool.semaphore.promised + pool.inside = limit
  fair : pool.semaphore.Fair
  line : (pool.semaphore.waiters.map (·.job)).Nodup
  waiting : ∀ index, index ∈ pool.semaphore.waiters.map (·.job) ↔
    ∃ job, pool.jobs[index]? = some job ∧ job.stage = .waiting
  returned : ∀ index result, (index, result) ∈ pool.returned ↔
    ∃ job, pool.jobs[index]? = some job ∧ job.stage = .ended result
  once : (pool.returned.map Prod.fst).Nodup
  outcomes : (pool.returned.map Prod.snd).Perm pool.outcomes

theorem sound_init (limit : Nat) (requests : List κ) :
    Sound limit (init limit requests : Pool κ ω ρ) where
  permits := by
    have hnone : (init limit requests : Pool κ ω ρ).inside = 0 := by
      rw [inside, init, List.countP_eq_zero]
      intro job hjob
      obtain ⟨request, -, rfl⟩ := List.mem_map.mp hjob
      exact Bool.false_ne_true
    rw [hnone]
    rfl
  fair := .inr (.inl rfl)
  line := List.nodup_nil
  waiting index := by simp [init]
  returned index result := by simp [init]
  once := List.nodup_nil
  outcomes := by
    have hnone : (init limit requests : Pool κ ω ρ).outcomes = [] := by
      rw [Pool.outcomes, List.filterMap_eq_nil_iff]
      intro job hjob
      obtain ⟨request, -, rfl⟩ := List.mem_map.mp hjob
      rfl
    rw [hnone]
    exact .nil

section

variable {limit index : Nat} {pool : Pool κ ω ρ} {job : Job κ ω ρ} {work}

theorem lt_of_getElem? (hjob : pool.jobs[index]? = some job) : index < pool.jobs.length :=
  (List.getElem?_eq_some_iff.mp hjob).1

/-- The others stay as they are. -/
theorem atStage_iff {stage : JobStage ω ρ} {P : Job κ ω ρ → Prop} (hjob : pool.jobs[index]? = some job)
    (other : Nat) :
    (∃ found, (pool.atStage index job stage)[other]? = some found ∧ P found) ↔
      other = index ∧ P { job with stage } ∨
        other ≠ index ∧ ∃ found, pool.jobs[other]? = some found ∧ P found := by
  rw [atStage, List.getElem?_set]
  by_cases hsame : index = other
  · subst hsame
    simp [lt_of_getElem? hjob]
  · simp [hsame, Ne.symm hsame]

theorem countP_atStage (stage : JobStage ω ρ) (hjob : pool.jobs[index]? = some job) :
    (pool.atStage index job stage).countP (·.stage.isInside) + (if job.stage.isInside then 1 else 0) =
      pool.inside + if stage.isInside then 1 else 0 := by
  have hlt := lt_of_getElem? hjob
  have hget : pool.jobs[index] = job := (List.getElem?_eq_some_iff.mp hjob).2
  have hcounted : (if job.stage.isInside then 1 else 0) ≤ pool.inside := by
    split
    · next hinside =>
        exact List.countP_pos_iff.mpr ⟨job, List.mem_of_getElem? hjob, hinside⟩
    · exact Nat.zero_le _
  rw [atStage, List.countP_set hlt, hget]
  unfold inside at *
  dsimp only
  omega

/-- A job that had no result adds the one it has now. -/
theorem outcomes_atStage {stage : JobStage ω ρ} (hjob : pool.jobs[index]? = some job)
    (hunended : job.stage.result? = none) :
    ((pool.atStage index job stage).filterMap (·.stage.result?)).Perm
      (pool.outcomes ++ stage.result?.toList) := by
  obtain ⟨hlt, hget⟩ := List.getElem?_eq_some_iff.mp hjob
  have hsplit : pool.jobs = pool.jobs.take index ++ job :: pool.jobs.drop (index + 1) := by
    rw [← hget, List.getElem_cons_drop, List.take_append_drop]
  rw [atStage, List.set_eq_take_append_cons_drop, if_pos hlt, outcomes]
  nth_rewrite 3 [hsplit]
  simp only [List.filterMap_append, List.filterMap_cons, hunended, List.append_assoc]
  refine List.Perm.append_left _ ?_
  cases hresult : stage.result? with
  | none =>
      rw [Option.toList_none, List.append_nil]
  | some result => exact (List.perm_append_singleton _ _).symm

/-- A job that took a permit works on, or gives it back with its result. -/
theorem sound_place {state : ω} (hjob : pool.jobs[index]? = some job)
    (hunended : job.stage.result? = none)
    (hpermits : pool.semaphore.value + pool.semaphore.promised + pool.inside + 1 =
      limit + if job.stage.isInside then 1 else 0)
    (hfair : pool.semaphore.Fair) (hline : (pool.semaphore.waiters.map (·.job)).Nodup)
    (hwaiting : ∀ other, other ∈ pool.semaphore.waiters.map (·.job) ↔
      other ≠ index ∧ ∃ found, pool.jobs[other]? = some found ∧ found.stage = .waiting)
    (hreturned : ∀ other result, (other, result) ∈ pool.returned ↔
      ∃ found, pool.jobs[other]? = some found ∧ found.stage = .ended result)
    (honce : (pool.returned.map Prod.fst).Nodup)
    (houtcomes : (pool.returned.map Prod.snd).Perm pool.outcomes) :
    Sound limit (place work pool index job state) := by
  have hnot : ∀ result, (index, result) ∉ pool.returned := by
    intro result hmem
    obtain ⟨found, hfound, hended⟩ := (hreturned index result).mp hmem
    obtain rfl := Option.some.inj (hjob.symm.trans hfound)
    rw [hended] at hunended
    cases hunended
  unfold place
  cases hresult : work.result state with
  | none =>
      have hcount := countP_atStage (.inside state) hjob
      have hsame := @outcomes_atStage κ ω ρ index pool job (.inside state) hjob hunended
      refine ⟨?_, hfair, hline, fun other => ?_, fun other result => ?_, honce, ?_⟩
      · simp only [inside, JobStage.isInside, if_true] at hcount hpermits ⊢
        omega
      · rw [hwaiting]
        dsimp only
        rw [atStage_iff hjob]
        simp
      · dsimp only
        rw [hreturned, atStage_iff hjob]
        by_cases hsame : other = index
        · subst hsame
          refine iff_of_false (fun hex => ?_) (by simp)
          exact hnot result ((hreturned other result).mpr hex)
        · simp [hsame]
      · exact houtcomes.trans (hsame.trans (List.Perm.of_eq (List.append_nil _))).symm
  | some result =>
      have hcount := countP_atStage (.ended result) hjob
      obtain ⟨hjobs, hvalue, hfair'⟩ := Semaphore.release_spec pool.semaphore
      have hadded := @outcomes_atStage κ ω ρ index pool job (.ended result) hjob hunended
      refine ⟨?_, hfair', hjobs ▸ hline, fun other => ?_, fun other value => ?_, ?_, ?_⟩
      · simp only [inside, JobStage.isInside, Bool.false_eq_true, if_false] at hcount hpermits ⊢
        omega
      · dsimp only
        rw [hjobs, hwaiting, atStage_iff hjob]
        simp
      · dsimp only
        rw [List.mem_append, List.mem_singleton, atStage_iff hjob, hreturned, Prod.mk.injEq,
          JobStage.ended.injEq]
        by_cases hsame : other = index
        · subst hsame
          have hgone := hnot value
          rw [hreturned] at hgone
          rw [or_iff_right hgone]
          simp [eq_comm]
        · simp [hsame]
      · dsimp only
        rw [List.map_append, List.map_singleton]
        refine honce.append (List.nodup_singleton _) fun other hold hnew => ?_
        obtain ⟨⟨found, value⟩, hmem, rfl⟩ := List.mem_map.mp hold
        obtain rfl : found = index := List.mem_singleton.mp hnew
        exact hnot value hmem
      · dsimp only
        rw [List.map_append, List.map_singleton]
        exact (houtcomes.append_right [result]).trans hadded.symm

/-- A job in line is there once, and is the one that waits. -/
theorem not_mem_line (h : Sound limit pool) (hjob : pool.jobs[index]? = some job)
    (hstage : job.stage ≠ .waiting) : index ∉ pool.semaphore.waiters.map (·.job) := by
  rw [h.waiting]
  rintro ⟨found, hfound, hwaits⟩
  obtain rfl := Option.some.inj (hjob.symm.trans hfound)
  exact hstage hwaits

theorem sound_acquire (h : Sound limit pool) (hjob : pool.jobs[index]? = some job)
    (hstage : job.stage = .unstarted) : Sound limit (acquire work pool index job) := by
  have hpermits := h.permits
  have hnotInside : job.stage.isInside = false := by
    rw [hstage]
    rfl
  have hunended : job.stage.result? = none := by
    rw [hstage]
    rfl
  have hnotInLine := not_mem_line h hjob fun hwaits => by
    rw [hstage] at hwaits
    cases hwaits
  unfold acquire
  dsimp only
  cases hlocked : pool.semaphore.locked with
  | true =>
      rw [if_pos rfl]
      have hcount := countP_atStage .waiting hjob
      rw [hnotInside] at hcount
      have hsame := @outcomes_atStage κ ω ρ index pool job .waiting hjob hunended
      refine ⟨?_, ?_, ?_, fun other => ?_, fun other result => ?_, h.once, ?_⟩
      · simp only [inside, Semaphore.promised, JobStage.isInside, List.countP_append,
          List.countP_singleton, Bool.false_eq_true, if_false, Nat.add_zero] at hcount hpermits ⊢
        omega
      · have hbusy : pool.semaphore.value = 0 ∨ pool.semaphore.waiters ≠ [] := by
          simpa [Semaphore.locked] using hlocked
        rcases h.fair with hvalue | hnone | ⟨waiter, hwaiter, hwoken⟩
        · exact .inl hvalue
        · exact .inl (hbusy.resolve_right (absurd hnone))
        · exact .inr (.inr ⟨waiter, List.mem_append_left _ hwaiter, hwoken⟩)
      · rw [List.map_append, List.map_singleton]
        refine h.line.append (List.nodup_singleton _) fun other hold hnew => ?_
        obtain rfl := List.mem_singleton.mp hnew
        exact hnotInLine hold
      · dsimp only
        rw [List.map_append, List.mem_append, List.map_singleton, List.mem_singleton, h.waiting,
          atStage_iff hjob]
        by_cases hsame : other = index <;> simp [hsame]
      · dsimp only
        rw [h.returned, atStage_iff hjob]
        by_cases hsame : other = index
        · subst hsame
          simp [hjob, hstage]
        · simp [hsame]
      · exact h.outcomes.trans (hsame.trans (List.Perm.of_eq (List.append_nil _))).symm
  | false =>
      have hfree : pool.semaphore.value ≠ 0 ∧ pool.semaphore.waiters = [] := by
        simpa [Semaphore.locked] using hlocked
      rw [if_neg Bool.false_ne_true]
      refine sound_place hjob hunended ?_ ?_ h.line (fun other => ?_) h.returned h.once h.outcomes
      · rw [hnotInside]
        simp only [inside, Semaphore.promised, Bool.false_eq_true, if_false] at hpermits ⊢
        omega
      · exact .inr (.inl hfree.2)
      · dsimp only
        rw [h.waiting]
        refine ⟨fun hex => ⟨fun hsame => ?_, hex⟩, And.right⟩
        subst hsame
        exact hnotInLine ((h.waiting _).mpr hex)

theorem sound_resume (h : Sound limit pool) (hjob : pool.jobs[index]? = some job)
    (hstage : job.stage = .waiting) : Sound limit (resume work pool index job) := by
  have hpermits := h.permits
  have hnotInside : job.stage.isInside = false := by
    rw [hstage]
    rfl
  have hunended : job.stage.result? = none := by
    rw [hstage]
    rfl
  unfold resume
  split
  · next hwoken =>
      obtain ⟨hjobs, hcount, hfair⟩ := Semaphore.leave_spec h.line hwoken
      refine sound_place hjob hunended ?_ hfair ?_ (fun other => ?_) h.returned h.once h.outcomes
      · rw [hnotInside]
        simp only [inside, Bool.false_eq_true, if_false] at hpermits ⊢
        omega
      · rw [hjobs]
        exact h.line.filter _
      · dsimp only
        rw [hjobs, List.mem_filter, decide_eq_true_eq, h.waiting, and_comm]
  · exact h

theorem sound_act (h : Sound limit pool) (hjob : pool.jobs[index]? = some job) (action : JobAction μ) :
    Sound limit (act work pool index job action) := by
  unfold act
  split
  · next hstage => exact sound_acquire h hjob hstage
  · next hstage => exact sound_resume h hjob hstage
  · next state move hstage =>
      have hpermits := h.permits
      have hnotInLine := not_mem_line h hjob fun hwaits => by
        rw [hstage] at hwaits
        cases hwaits
      have hunended : job.stage.result? = none := by
        rw [hstage]
        rfl
      refine sound_place hjob hunended ?_ h.fair h.line (fun other => ?_) h.returned h.once h.outcomes
      · rw [hstage, JobStage.isInside, if_pos rfl, hpermits]
      · refine ⟨fun hmem => ⟨fun hsame => hnotInLine (hsame ▸ hmem), (h.waiting other).mp hmem⟩, ?_⟩
        exact fun hex => (h.waiting other).mpr hex.2
  · exact h

theorem sound_move (h : Sound limit pool) (m : PoolMove μ) : Sound limit (move work pool m) := by
  unfold move
  cases hjob : pool.jobs[m.job]? with
  | none => exact h
  | some job => exact sound_act h hjob m.action

theorem sound_run (h : Sound limit pool) (moves : List (PoolMove μ)) : Sound limit (run work pool moves) := by
  induction moves generalizing pool with
  | nil => exact h
  | cons m moves ih => exact ih (sound_move h m)

/-- Never more jobs at work than permits. -/
theorem Sound.inside_le (h : Sound limit pool) : pool.inside ≤ limit := by
  have hpermits := h.permits
  omega

/-- No job is left behind. -/
theorem Sound.runnable (h : Sound limit pool) (hlimit : 0 < limit) (hopen : pool.unended ≠ 0) :
    pool.Runnable := by
  obtain ⟨job, hjob, hnone⟩ := List.countP_pos_iff.mp (Nat.pos_of_ne_zero hopen)
  have hunended : ∀ result, job.stage ≠ .ended result := by
    intro result hended
    rw [hended] at hnone
    cases hnone
  cases hstage : job.stage with
  | unstarted => exact .inl ⟨job, hjob, .inl hstage⟩
  | inside state => exact .inl ⟨job, hjob, .inr (by rw [hstage]; rfl)⟩
  | ended result => exact absurd hstage (hunended result)
  | waiting =>
      obtain ⟨index, hindex⟩ := List.mem_iff_getElem?.mp hjob
      have hline := (h.waiting index).mpr ⟨job, hindex, hstage⟩
      by_cases hpromised : ∃ waiter ∈ pool.semaphore.waiters, waiter.woken = true
      · obtain ⟨⟨other, woken⟩, hwaiter, rfl⟩ := hpromised
        exact .inr ⟨other, hwaiter⟩
      · -- nothing is free and nothing is promised, so all the permits are with jobs at work
        have hvalue : pool.semaphore.value = 0 := by
          refine h.fair.resolve_right (not_or.mpr ⟨fun hnone => ?_, hpromised⟩)
          rw [hnone] at hline
          cases hline
        have hnone : pool.semaphore.promised = 0 := by
          rw [Semaphore.promised, List.countP_eq_zero]
          exact fun waiter hwaiter hwoken => hpromised ⟨waiter, hwaiter, hwoken⟩
        have hpermits := h.permits
        have hinside : 0 < pool.jobs.countP (·.stage.isInside) := by
          unfold inside at hpermits
          omega
        obtain ⟨other, hother, hat⟩ := List.countP_pos_iff.mp hinside
        exact .inl ⟨other, hother, .inr hat⟩

/-- Each job is still open or has returned. -/
theorem Sound.length_returned (h : Sound limit pool) :
    pool.returned.length + pool.unended = pool.jobs.length := by
  have hsame : pool.returned.length = pool.outcomes.length := by
    rw [← List.length_map Prod.snd, h.outcomes.length_eq]
  have hresults : pool.outcomes.length = pool.jobs.countP fun job => job.stage.result?.isSome := by
    rw [Pool.outcomes, List.length_filterMap_eq_countP]
  rw [hsame, hresults, unended,
    List.length_eq_countP_add_countP fun job : Job κ ω ρ => job.stage.result?.isSome]
  refine congrArg _ (List.countP_congr fun job _ => ?_)
  cases job.stage.result? <;> simp

end

/-! ### What a job did -/

/-- What happened to the work of one job. -/
def addressed (index : Nat) (moves : List (PoolMove μ)) : List μ :=
  moves.filterMap fun m =>
    match m.action with
    | .work move => if m.job = index then some move else none
    | _ => none

/-- The state of a job's work, and its result, come from its start by some of what happened to it. -/
def Traced (moves : List μ) (job : Job κ ω ρ) : Prop :=
  match job.stage with
  | .unstarted | .waiting => True
  | .inside state =>
      ∃ seen : List μ, seen.Sublist moves ∧ state = seen.foldl work.move (work.start job.request)
  | .ended result =>
      ∃ seen : List μ, seen.Sublist moves ∧
        work.result (seen.foldl work.move (work.start job.request)) = some result

section

variable {work} {index : Nat} {pool : Pool κ ω ρ} {job : Job κ ω ρ} {moves later : List μ}

theorem Traced.mono (h : Traced work moves job) (hsub : moves.Sublist later) : Traced work later job := by
  unfold Traced at *
  split at h
  · trivial
  · trivial
  · obtain ⟨seen, hseen, hstate⟩ := h
    exact ⟨seen, hseen.trans hsub, hstate⟩
  · obtain ⟨seen, hseen, hresult⟩ := h
    exact ⟨seen, hseen.trans hsub, hresult⟩

/-- The jobs after a step of one of them. -/
def Changes (pool pool' : Pool κ ω ρ) (index : Nat) (job : Job κ ω ρ) (P : Job κ ω ρ → Prop) : Prop :=
  pool'.jobs = pool.jobs ∨ ∃ stage, pool'.jobs = pool.atStage index job stage ∧ P { job with stage }

theorem changes_place {pool' : Pool κ ω ρ} {state : ω} (hjobs : pool'.jobs = pool.jobs)
    (hseen : ∃ seen : List μ, seen.Sublist moves ∧ state = seen.foldl work.move (work.start job.request)) :
    Changes pool (place work pool' index job state) index job (Traced work moves) := by
  obtain ⟨seen, hseen, rfl⟩ := hseen
  have hstage (stage : JobStage ω ρ) : pool'.atStage index job stage = pool.atStage index job stage := by
    rw [atStage, atStage, hjobs]
  unfold place
  cases hresult : work.result (seen.foldl work.move (work.start job.request)) with
  | none => exact .inr ⟨.inside _, hstage _, ⟨seen, hseen, rfl⟩⟩
  | some result => exact .inr ⟨.ended result, hstage _, ⟨seen, hseen, hresult⟩⟩

theorem changes_act (hjob : Traced work moves job) (action : JobAction μ)
    (hmoves : ∀ move, action = .work move → (moves ++ [move]).Sublist later) :
    Changes pool (act work pool index job action) index job (Traced work later) := by
  unfold act
  split
  · unfold acquire
    dsimp only
    split
    · exact .inr ⟨.waiting, rfl, trivial⟩
    · exact changes_place rfl ⟨[], List.nil_sublist _, rfl⟩
  · unfold resume
    split
    · exact changes_place rfl ⟨[], List.nil_sublist _, rfl⟩
    · exact .inl rfl
  · next state move hstage =>
      rw [Traced, hstage] at hjob
      obtain ⟨seen, hseen, rfl⟩ := hjob
      refine changes_place rfl ⟨seen ++ [move], ?_, by rw [List.foldl_append]; rfl⟩
      exact (hseen.append_right _).trans (hmoves move rfl)
  · exact .inl rfl

end

/-- Each job is for its request, and its result is that of its own work, started once. -/
theorem traced_run (limit : Nat) (requests : List κ) (moves : List (PoolMove μ)) :
    (run work (init limit requests) moves).jobs.map (·.request) = requests ∧
      ∀ index job, (run work (init limit requests) moves).jobs[index]? = some job →
        Traced work (addressed index moves) job := by
  induction moves using List.reverseRecOn with
  | nil =>
      refine ⟨?_, fun index job hjob => ?_⟩
      · rw [run, List.foldl_nil, init, List.map_map]
        exact List.map_id requests
      · obtain ⟨request, -, rfl⟩ := List.mem_map.mp (List.mem_of_getElem? hjob)
        trivial
  | append_singleton moves m ih =>
      obtain ⟨hrequests, htraced⟩ := ih
      have hmono (index : Nat) : (addressed index moves).Sublist (addressed index (moves ++ [m])) := by
        rw [addressed, addressed, List.filterMap_append]
        exact List.sublist_append_left _ _
      rw [run, List.foldl_append]
      change (move work (run work (init limit requests) moves) m).jobs.map (·.request) = requests ∧
        ∀ index job, (move work (run work (init limit requests) moves) m).jobs[index]? = some job →
          Traced work (addressed index (moves ++ [m])) job
      generalize run work (init limit requests) moves = pool at hrequests htraced ⊢
      have hsame : (pool.jobs.map (·.request) = requests) ∧ ∀ index job,
          pool.jobs[index]? = some job → Traced work (addressed index (moves ++ [m])) job :=
        ⟨hrequests, fun index job hjob => (htraced index job hjob).mono (hmono index)⟩
      unfold move
      cases hjob : pool.jobs[m.job]? with
      | none => exact hsame
      | some job =>
          have hchanges := @changes_act κ ω μ ρ work m.job pool job _ (addressed m.job (moves ++ [m]))
            (htraced m.job job hjob) m.action fun move hmove => by
              rw [addressed, addressed, List.filterMap_append]
              simp [hmove]
          dsimp only
          rcases hchanges with hjobs | ⟨stage, hjobs, hnew⟩
          · rw [hjobs]
            exact hsame
          · rw [hjobs]
            constructor
            · obtain ⟨hlt, hget⟩ := List.getElem?_eq_some_iff.mp hjob
              have hlt' : m.job < (pool.jobs.map (·.request)).length := by
                rwa [List.length_map]
              have hrequest : job.request = (pool.jobs.map (·.request))[m.job] := by
                rw [List.getElem_map, hget]
              rw [atStage, List.map_set, hrequest, List.set_getElem_self, hrequests]
            · intro index found hfound
              rw [atStage, List.getElem?_set] at hfound
              split at hfound
              · next hindex =>
                  subst hindex
                  rw [if_pos (lt_of_getElem? hjob)] at hfound
                  obtain rfl := Option.some.inj hfound
                  exact hnew
              · exact hsame.2 index found hfound

/-- A result that came in is that of the job's own work. -/
theorem returned_run {limit : Nat} {requests : List κ} {moves : List (PoolMove μ)} {index : Nat}
    {result : ρ} (h : (index, result) ∈ (run work (init limit requests) moves).returned) :
    ∃ request, requests[index]? = some request ∧
      ∃ seen : List μ, seen.Sublist (addressed index moves) ∧
        work.result (seen.foldl work.move (work.start request)) = some result := by
  obtain ⟨hrequests, htraced⟩ := traced_run work limit requests moves
  obtain ⟨job, hjob, hended⟩ := ((sound_run (sound_init limit requests) moves).returned _ _).mp h
  have hown := htraced index job hjob
  rw [Traced, hended] at hown
  refine ⟨job.request, ?_, hown⟩
  rw [← hrequests, List.getElem?_map, hjob]
  rfl

end Pool

end Py
