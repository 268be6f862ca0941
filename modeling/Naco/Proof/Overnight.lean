import Naco.Proof.Conditions
import Mathlib.Tactic.IntervalCases

/-!
# Windows that go over midnight

A window whose end is before its start begins on one day and ends on the next. It is tested with the day
of the instant alone, so after midnight it is taken for a window of the day it ends on.
-/

namespace Naco

open Py

/-! ### Times as `HH:MM` -/

def digitChar (digit : Nat) : Char :=
  Char.ofNat ('0'.toNat + digit)

/-- `HH:MM` of a minute of the day. -/
def clockText (minute : Nat) : String :=
  String.ofList [digitChar (minute / 60 / 10), digitChar (minute / 60 % 10), ':',
    digitChar (minute % 60 / 10), digitChar (minute % 60 % 10)]

theorem length_clockText (minute : Nat) : (clockText minute).toList.length = 5 := by
  rw [clockText, String.toList_ofList]
  rfl

theorem digitChar_spec {digit : Nat} (h : digit < 10) :
    ('0' ≤ digitChar digit ∧ digitChar digit ≤ '9') ∧ (digitChar digit).toNat - '0'.toNat = digit ∧
      Time.startsOffset (digitChar digit) = false ∧ digitChar digit ≠ 'T' := by
  interval_cases digit <;> decide

/-- Two digits are read as the number they are written for. -/
theorem parseDigits_two {number : Nat} (h : number < 100) (rest : List Char) :
    Time.parseDigits 2 (digitChar (number / 10) :: digitChar (number % 10) :: rest) =
      some (number, rest) := by
  obtain ⟨hhigh, hhighValue, -⟩ := digitChar_spec (by omega : number / 10 < 10)
  obtain ⟨hlow, hlowValue, -⟩ := digitChar_spec (by omega : number % 10 < 10)
  rw [Time.parseDigits, if_pos hhigh, Time.parseDigits, if_pos hlow, Time.parseDigits, hhighValue,
    hlowValue]
  simp only [Option.map_some, Option.some.injEq, Prod.mk.injEq, and_true]
  omega

theorem parseFields_clockText {hour minute : Nat} (hhour : hour < 100) (hminute : minute < 100) :
    Time.parseFields 3 0 true 5 [digitChar (hour / 10), digitChar (hour % 10), ':',
      digitChar (minute / 10), digitChar (minute % 10)] = some ([hour, minute], 0, false) := by
  rw [Time.parseFields, parseDigits_two hhour]
  simp only [List.head?_cons, Option.getD_some, if_true, List.tail_cons]
  rw [Time.parseFields, parseDigits_two hminute]
  simp

/-- A text `HH:MM` is read as the minute it is written for. -/
theorem fromisoformat_clockText {minute : Nat} (h : minute < 1440) :
    Time.fromisoformat (clockText minute) = .ok (Time.naive (minute / 60) (minute % 60)) := by
  have hplain {digit : Nat} (hdigit : digit < 10) := (digitChar_spec hdigit).2.2.1
  have hhead : (clockText minute).toList.head? ≠ some 'T' := by
    simp only [clockText, String.toList_ofList, List.head?_cons, ne_eq, Option.some.injEq]
    exact (digitChar_spec (by omega : minute / 60 / 10 < 10)).2.2.2
  have hoffset : ((clockText minute).toList.dropWhile fun c => !Time.startsOffset c) = [] := by
    rw [List.dropWhile_eq_nil_iff]
    simp only [clockText, String.toList_ofList, List.mem_cons, List.not_mem_nil, or_false]
    rintro c (rfl | rfl | rfl | rfl | rfl)
    · rw [hplain (by omega)]
      rfl
    · rw [hplain (by omega)]
      rfl
    · rfl
    · rw [hplain (by omega)]
      rfl
    · rw [hplain (by omega)]
      rfl
  have hfields : Time.parseFields 3 0 true 5 (clockText minute).toList =
      some ([minute / 60, minute % 60], 0, false) := by
    rw [clockText, String.toList_ofList]
    exact parseFields_clockText (by omega) (by omega)
  have hrange : (Time.naive (minute / 60) (minute % 60)).inRange = true := by
    have hhour : minute / 60 < 24 := by omega
    have hminute : minute % 60 < 60 := Nat.mod_lt _ (by decide)
    simp [Time.naive, Time.inRange, hhour, hminute]
  have hparse : Time.parseIso (clockText minute).toList = some (Time.naive (minute / 60) (minute % 60)) := by
    simp only [Time.parseIso, hoffset, List.length_nil, length_clockText, hfields, Time.parseOffset, bind,
      Option.bind]
    rw [if_neg]
    · rfl
    · rintro (⟨-, hmore⟩ | hbad)
      · cases hmore
      · exact hbad hrange
  rw [Time.fromisoformat, if_neg hhead, hparse]

/-- The times that are written `HH:MM`. -/
def Hhmm.ofMinute (minute : Fin 1440) : Hhmm :=
  ⟨clockText minute, by
    rw [isHhmm, fromisoformat_clockText minute.isLt]
    simp [Time.naive, length_clockText]⟩

/-! ### The days of a window -/

/-- The day before. -/
def Day.previous : Day → Day
  | .mon => .sun
  | .tue => .mon
  | .wed => .tue
  | .thu => .wed
  | .fri => .thu
  | .sat => .fri
  | .sun => .sat

/-- A minute of a day lies in a window that begins on a chosen day. -/
def InWindow (start stop : Nat) (days : List Day) (day : Day) (minute : Nat) : Prop :=
  if start ≤ stop then day ∈ days ∧ start ≤ minute ∧ minute ≤ stop
  else (day ∈ days ∧ start ≤ minute) ∨ (day.previous ∈ days ∧ minute ≤ stop)

theorem micros_naive (minute : Nat) :
    (Time.naive (minute / 60) (minute % 60)).micros = minute * 60000000 := by
  simp only [Time.micros, Time.naive]
  omega

theorem le_naive_minutes (a b : Nat) :
    (Time.naive (a / 60) (a % 60)).le (Time.naive (b / 60) (b % 60)) = .ok (decide (a ≤ b)) := by
  have hscaled : (a : Int) * 60000000 ≤ b * 60000000 ↔ a ≤ b := by omega
  simp only [le_naive_eq_ok (show (Time.naive (a / 60) (a % 60)).utcoffset = none from rfl)
    (show (Time.naive (b / 60) (b % 60)).utcoffset = none from rfl), micros_naive, hscaled]

theorem inWindow_naive (start stop now : Nat) :
    TimeCond.inWindow (Time.naive (start / 60) (start % 60)) (Time.naive (stop / 60) (stop % 60))
      (Time.naive (now / 60) (now % 60)) =
        .ok (if start ≤ stop then decide (start ≤ now ∧ now ≤ stop)
          else decide (start ≤ now ∨ now ≤ stop)) := by
  rw [TimeCond.inWindow, le_naive_minutes, le_naive_minutes, le_naive_minutes]
  simp only [bind, Except.bind, pure, Except.pure]
  by_cases horder : start ≤ stop <;> by_cases hstart : start ≤ now <;> simp [horder, hstart]

/-- A window with plain times. -/
def plainWindow (start stop : Fin 1440) (days : List Day) (hdays : days ≠ []) : TimeCond where
  start := Hhmm.ofMinute start
  stop := Hhmm.ofMinute stop
  days
  days_ne_nil := hdays

/-- The day of the instant and its minute decide. -/
theorem test_plainWindow (start stop : Fin 1440) {days : List Day} (hdays : days ≠ [])
    {ctx : AuthContext} {tz : Zone} {wall : Int} (hwall : ctx.now.astimezone tz = .ok wall) :
    (plainWindow start stop days hdays).test ctx tz = .ok (decide (Day.ofWall wall ∈ days ∧
      if start.val ≤ stop.val then start.val ≤ minuteOfDay wall ∧ minuteOfDay wall ≤ stop.val
      else start.val ≤ minuteOfDay wall ∨ minuteOfDay wall ≤ stop.val)) := by
  have hstart : Time.fromisoformat (plainWindow start stop days hdays).start.val =
      .ok (Time.naive (start.val / 60) (start.val % 60)) := fromisoformat_clockText start.isLt
  have hstop : Time.fromisoformat (plainWindow start stop days hdays).stop.val =
      .ok (Time.naive (stop.val / 60) (stop.val % 60)) := fromisoformat_clockText stop.isLt
  have hdaysOf : (plainWindow start stop days hdays).days = days := rfl
  simp only [TimeCond.test, hwall, hstart, hstop, hdaysOf, bind, Except.bind, pure, Except.pure,
    inWindow_naive]
  by_cases hday : Day.ofWall wall ∈ days
  · by_cases horder : start.val ≤ stop.val <;> simp [hday, horder]
  · simp [hday]

/-- A window matches as it should, at an instant, exactly when it does not go over midnight, or has not
begun the day before, or the day of the instant and the day before it are both chosen or both not. -/
theorem window_of_starting_day_iff (start stop : Fin 1440) {days : List Day} (hdays : days ≠ [])
    {ctx : AuthContext} {tz : Zone} {wall : Int} (hwall : ctx.now.astimezone tz = .ok wall) :
    (∃ matched, (plainWindow start stop days hdays).test ctx tz = .ok matched ∧
      (matched = true ↔ InWindow start stop days (Day.ofWall wall) (minuteOfDay wall))) ↔
      (start.val ≤ stop.val ∨ stop.val < minuteOfDay wall ∨
        (Day.ofWall wall ∈ days ↔ (Day.ofWall wall).previous ∈ days)) := by
  simp only [test_plainWindow start stop hdays hwall, Except.ok.injEq, exists_eq_left',
    decide_eq_true_eq, InWindow]
  generalize minuteOfDay wall = minute
  by_cases horder : start.val ≤ stop.val
  · simp only [horder, if_true, true_or]
  · simp only [horder, if_false, false_or]
    by_cases hlate : stop.val < minute
    · have hnot : ¬ minute ≤ stop.val := Nat.not_le.mpr hlate
      simp only [hlate, hnot, or_false, and_false, true_or]
    · have hearly : minute ≤ stop.val := Nat.not_lt.mp hlate
      have hbefore : ¬ start.val ≤ minute := by omega
      simp only [hlate, hearly, hbefore, and_true, and_false, false_or, or_true]

/-- Friday night, and the morning after it. -/
def fridayNight : TimeCond :=
  plainWindow 1320 360 [.fri] (by decide)

/-- Friday the 1st of March 2024, 23:00, and the Saturday that follows, 01:00. -/
def fridayEvening : AuthContext where
  authMethod := .mab
  now := ⟨63844930800000000, 0⟩

def saturdayMorning : AuthContext where
  authMethod := .mab
  now := ⟨63844938000000000, 0⟩

theorem window_of_starting_day_friday :
    ∃ matched, fridayNight.test fridayEvening Zone.utc = .ok matched ∧
      (matched = true ↔ InWindow 1320 360 [.fri] .fri 1380) := by
  have hwall : fridayEvening.now.astimezone Zone.utc = .ok 63844930800000000 := rfl
  have hday : Day.ofWall 63844930800000000 = .fri := by decide
  have hminute : minuteOfDay 63844930800000000 = 1380 := by decide
  have hiff := window_of_starting_day_iff 1320 360 fridayNight.days_ne_nil hwall
  rw [hday, hminute] at hiff
  exact hiff.mpr (.inr (.inl (by decide)))

/-- The window is open on Friday night until midnight and closed after it. -/
theorem friday_night_ends_at_midnight :
    ¬ ∀ (start stop : Fin 1440) (days : List Day) (hdays : days ≠ []) (ctx : AuthContext) (tz : Zone)
        (wall : Int), ctx.now.astimezone tz = .ok wall →
      ∃ matched, (plainWindow start stop days hdays).test ctx tz = .ok matched ∧
        (matched = true ↔ InWindow start stop days (Day.ofWall wall) (minuteOfDay wall)) := by
  intro hall
  have hwall : saturdayMorning.now.astimezone Zone.utc = .ok 63844938000000000 := rfl
  obtain ⟨matched, htest, hiff⟩ :=
    hall 1320 360 [.fri] (by decide) saturdayMorning Zone.utc 63844938000000000 hwall
  rw [test_plainWindow 1320 360 (by decide) hwall] at htest
  have hclosed : matched = false := (Except.ok.inj htest).symm
  have hday : Day.ofWall 63844938000000000 = .sat := by decide
  have hminute : minuteOfDay 63844938000000000 = 60 := by decide
  have hopen : InWindow 1320 360 [.fri] .sat 60 := by
    rw [InWindow, if_neg (by decide)]
    exact .inr (by decide)
  rw [hclosed, hday, hminute] at hiff
  exact absurd (hiff.mpr hopen) Bool.false_ne_true

end Naco
