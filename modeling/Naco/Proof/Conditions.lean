import Naco.Conditions

/-!
# When a validated condition evaluates

Every condition but a time window is a total function of the context. A time window converts the
instant to the configured zone, which fails at the ends of the calendar, and on its days it compares
its ends with a naive local time, which raises `TypeError` for an end that carries a UTC offset.
`_hhmm` lets such ends through: `12+05` is five characters long and has no seconds.
-/

namespace Naco

open Py

/-- The text of a time carries a UTC offset. -/
def Hhmm.HasOffset (v : Hhmm) : Prop :=
  ∃ c ∈ v.val.toList, Time.startsOffset c = true

instance (v : Hhmm) : Decidable v.HasOffset :=
  inferInstanceAs (Decidable (∃ c ∈ v.val.toList, _))

/-- The wall clock reading of an instant in a zone. -/
def localWall (now : Datetime) (tz : Zone) : Int :=
  now.utc + tz.utcoffset now.utc

/-- The window can be evaluated: the local time exists and, on the window's days, neither end
carries an offset. -/
def TimeCond.Evaluable (cond : TimeCond) (now : Datetime) (tz : Zone) : Prop :=
  Representable now.utc ∧ Representable (localWall now tz) ∧
    (Day.ofWall (localWall now tz) ∈ cond.days → ¬ cond.start.HasOffset ∧ ¬ cond.stop.HasOffset)

def Condition.Evaluable (cond : Condition) (now : Datetime) (tz : Zone) : Prop :=
  match cond with
  | .time cond => cond.Evaluable now tz
  | _ => True

/-! ### The pieces of a time window -/

theorem astimezone_of_representable {now : Datetime} {tz : Zone}
    (hutc : Representable now.utc) (hwall : Representable (localWall now tz)) :
    now.astimezone tz = .ok (localWall now tz) := by
  unfold localWall at hwall ⊢
  unfold Datetime.astimezone
  rw [if_neg (not_not.mpr hutc), if_neg (not_not.mpr hwall)]

theorem returns_astimezone_iff {now : Datetime} {tz : Zone} :
    Returns (now.astimezone tz) ↔ Representable now.utc ∧ Representable (localWall now tz) := by
  constructor
  · rintro ⟨wall, h⟩
    unfold Datetime.astimezone at h
    split at h
    · cases h
    · next hutc =>
        split at h
        · cases h
        · next hwall => exact ⟨not_not.mp hutc, not_not.mp hwall⟩
  · rintro ⟨hutc, hwall⟩
    exact ⟨_, astimezone_of_representable hutc hwall⟩

/-- What `_hhmm` accepted parses again, and is naive unless an offset is written. -/
theorem Hhmm.fromisoformat_ok (v : Hhmm) :
    ∃ t, Time.fromisoformat v.val = .ok t ∧ (t.utcoffset = none ↔ ¬ v.HasOffset) := by
  obtain ⟨v, hv⟩ := v
  unfold isHhmm at hv
  split at hv
  · next t ht =>
      refine ⟨t, ht, ?_⟩
      rw [Time.utcoffset_eq_none_iff ht]
      simp [HasOffset]
  · cases hv

theorem le_naive_eq_ok {a b : Time} (ha : a.utcoffset = none) (hb : b.utcoffset = none) :
    a.le b = .ok (decide (a.micros ≤ b.micros)) := by
  simp [Time.le, ha, hb]

/-- Both ends are compared with each other or with the naive time, so both have to be naive. -/
theorem returns_inWindow_iff {start stop now : Time} (hnow : now.utcoffset = none) :
    Returns (TimeCond.inWindow start stop now) ↔
      start.utcoffset = none ∧ stop.utcoffset = none := by
  constructor
  · rintro ⟨result, h⟩
    cases hstart : start.utcoffset with
    | none =>
        cases hstop : stop.utcoffset with
        | none => exact ⟨rfl, rfl⟩
        | some offset => simp [TimeCond.inWindow, Time.le, hstart, hstop, bind, Except.bind] at h
    | some offset =>
        cases hstop : stop.utcoffset with
        | none => simp [TimeCond.inWindow, Time.le, hstart, hstop, bind, Except.bind] at h
        | some offset' =>
            -- two aware ends compare, but neither compares with the naive time
            simp [TimeCond.inWindow, Time.le, hstart, hstop, hnow, bind, Except.bind] at h
  · rintro ⟨hstart, hstop⟩
    simp only [TimeCond.inWindow, le_naive_eq_ok hstart hstop, le_naive_eq_ok hstart hnow,
      le_naive_eq_ok hnow hstop, bind, Except.bind, pure, Except.pure]
    split <;> split <;> exact ⟨_, rfl⟩

theorem returns_timeCond_test_iff (cond : TimeCond) (ctx : AuthContext) (tz : Zone) :
    Returns (cond.test ctx tz) ↔ cond.Evaluable ctx.now tz := by
  by_cases hlocal : Representable ctx.now.utc ∧ Representable (localWall ctx.now tz)
  · obtain ⟨start, hstart, hstart_naive⟩ := cond.start.fromisoformat_ok
    obtain ⟨stop, hstop, hstop_naive⟩ := cond.stop.fromisoformat_ok
    unfold TimeCond.test TimeCond.Evaluable
    rw [astimezone_of_representable hlocal.1 hlocal.2]
    simp only [bind, Except.bind, pure, Except.pure, hstart, hstop, hlocal, true_and]
    split
    · next hday => exact iff_of_true ⟨_, rfl⟩ fun h => absurd h hday
    · next hday =>
        rw [returns_inWindow_iff rfl, hstart_naive, hstop_naive]
        exact (imp_iff_right (not_not.mp hday)).symm
  · have hfail : ¬ Returns (ctx.now.astimezone tz) := fun h => hlocal (returns_astimezone_iff.mp h)
    refine iff_of_false ?_ fun h => hlocal ⟨h.1, h.2.1⟩
    unfold TimeCond.test
    cases hwall : ctx.now.astimezone tz with
    | ok wall => exact absurd ⟨wall, hwall⟩ hfail
    | error error =>
        rintro ⟨result, h⟩
        cases h

theorem returns_conditionMatches_iff (cond : Condition) (ctx : AuthContext) (tz : Zone) :
    Returns (conditionMatches cond ctx tz) ↔ cond.Evaluable ctx.now tz := by
  cases cond with
  | time cond => exact returns_timeCond_test_iff cond ctx tz
  | _ => exact iff_of_true ⟨_, rfl⟩ trivial

/-! ### Validated rules -/

/-- The rules that `parseConditions` accepts evaluate exactly where each of them is evaluable. -/
theorem parsed_conditions_return_iff (raw : Json) (conds : List Condition)
    (_hparse : parseConditions raw = .ok conds) (ctx : AuthContext) (tz : Zone) :
    (∀ cond ∈ conds, Returns (conditionMatches cond ctx tz)) ↔
      ∀ cond ∈ conds, cond.Evaluable ctx.now tz := by
  constructor
  · intro h cond hmem
    exact (returns_conditionMatches_iff cond ctx tz).mp (h cond hmem)
  · intro h cond hmem
    exact (returns_conditionMatches_iff cond ctx tz).mpr (h cond hmem)

/-- A rule from noon to one, as the API stores it. -/
def lunchRule (start : String) : Json :=
  .arr [.obj [("type", .str "time"), ("start", .str start), ("end", .str "13:00")]]

/-- Noon of a day in 2024. -/
def lunchContext : AuthContext where
  authMethod := .mab
  now := ⟨63850334400000000, 0⟩

theorem parsed_conditions_return_iff_lunchRule :
    ∃ conds, parseConditions (lunchRule "12:00") = .ok conds ∧
      ((∀ cond ∈ conds, Returns (conditionMatches cond lunchContext Zone.utc)) ↔
        ∀ cond ∈ conds, cond.Evaluable lunchContext.now Zone.utc) :=
  ⟨_, rfl, parsed_conditions_return_iff (lunchRule "12:00") _ rfl lunchContext Zone.utc⟩

theorem parsed_condition_raises :
    ¬ ∀ (raw : Json) (conds : List Condition), parseConditions raw = .ok conds →
      ∀ (ctx : AuthContext) (tz : Zone), ∀ cond ∈ conds, Returns (conditionMatches cond ctx tz) := by
  intro h
  have hcond := h (lunchRule "12+05") _ rfl lunchContext Zone.utc _ (List.mem_singleton_self _)
  exact absurd hcond (by decide)

end Naco
