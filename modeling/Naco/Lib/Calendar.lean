import Naco.Lib.Datetime

/-!
# The Gregorian calendar

The date of a day, as `datetime` computes it: whole cycles of 400, 100 and 4 years first, then years,
then months.
-/

namespace Py

@[ext]
structure Date where
  year : Nat
  month : Nat
  day : Nat
  deriving DecidableEq, Repr

namespace Date

/-- `_DAYS_BEFORE_MONTH`. -/
def daysBeforeMonth : List Nat :=
  [0, 0, 31, 59, 90, 120, 151, 181, 212, 243, 273, 304, 334]

/-- `_days_before_month`, by whether the year is a leap year. -/
def monthStart (leap : Bool) (month : Nat) : Nat :=
  daysBeforeMonth.getD month 0 + if leap ∧ 2 < month then 1 else 0

/-- The month and the day of a day of the year, both from the estimate `(n + 50) >> 5`. -/
def ofYearDay (leap : Bool) (n : Nat) : Nat × Nat :=
  let month := (n + 50) / 32
  let month := if n < monthStart leap month then month - 1 else month
  (month, n - monthStart leap month + 1)

/-- `_ord2ymd`; days are counted from 1 January of the year 1. -/
def ofDays (days : Nat) : Date :=
  let n400 := days / 146097
  let n := days % 146097
  let n100 := n / 36524
  let n := n % 36524
  let n4 := n / 1461
  let n := n % 1461
  let n1 := n / 365
  let n := n % 365
  let year := n400 * 400 + 1 + n100 * 100 + n4 * 4 + n1
  if n1 = 4 ∨ n100 = 4 then ⟨year - 1, 12, 31⟩
  else
    let (month, day) := ofYearDay (n1 = 3 && (n4 ≠ 24 || n100 = 3)) n
    ⟨year, month, day⟩

/-- `_is_leap`. -/
def isLeap (year : Nat) : Bool :=
  year % 4 = 0 && (year % 100 ≠ 0 || year % 400 = 0)

/-- `_ymd2ord`, from 1 January of the year 1 on. -/
def toDays (date : Date) : Nat :=
  let y := date.year - 1
  y * 365 + y / 4 - y / 100 + y / 400 + monthStart (isLeap date.year) date.month + (date.day - 1)

end Date

/-- A number with leading zeros. -/
def zeroPad (width n : Nat) : String :=
  let digits := (toString n).toList
  String.ofList (List.replicate (width - digits.length) '0' ++ digits)

/-- A date, the seconds since midnight and the microseconds of the second, in UTC. -/
def isoformat (date : Date) (seconds micros : Nat) : String :=
  zeroPad 4 date.year ++ "-" ++ zeroPad 2 date.month ++ "-" ++ zeroPad 2 date.day ++ "T" ++
    zeroPad 2 (seconds / 3600) ++ ":" ++ zeroPad 2 (seconds / 60 % 60) ++ ":" ++
    zeroPad 2 (seconds % 60) ++ (if micros = 0 then "" else "." ++ zeroPad 6 micros) ++ "+00:00"

/-- `isoformat()` of a datetime in UTC. -/
def isoformatUtc (instant : Int) : String :=
  let micros := instant.toNat
  isoformat (Date.ofDays (micros / 86400000000)) (micros / 1000000 % 86400) (micros % 1000000)

example : isoformatUtc 63850334400000007 = "2024-05-03T12:00:00.000007+00:00" := by decide +kernel

/-! ### A date is that of one day -/

namespace Date

theorem monthStart_ofYearDay (leap : Bool) {n : Nat} (h : n < 366) :
    monthStart leap (ofYearDay leap n).1 + ((ofYearDay leap n).2 - 1) = n := by
  have hall : ∀ leap : Bool, ∀ n < 366,
      monthStart leap (ofYearDay leap n).1 + ((ofYearDay leap n).2 - 1) = n := by
    decide +kernel
  exact hall leap n h

/-- The days before a year, from its place in the cycles. -/
theorem yearDays_eq {n400 n100 n4 n1 : Nat} (h100 : n100 < 4) (h4 : n4 < 25) (h1 : n1 < 4) :
    (n400 * 400 + n100 * 100 + n4 * 4 + n1) * 365 + (n400 * 400 + n100 * 100 + n4 * 4 + n1) / 4 -
        (n400 * 400 + n100 * 100 + n4 * 4 + n1) / 100 + (n400 * 400 + n100 * 100 + n4 * 4 + n1) / 400 =
      n400 * 146097 + n100 * 36524 + n4 * 1461 + n1 * 365 := by
  omega

theorem isLeap_eq {n400 n100 n4 n1 : Nat} (h100 : n100 < 4) (h4 : n4 < 25) (h1 : n1 < 4) :
    isLeap (n400 * 400 + 1 + n100 * 100 + n4 * 4 + n1) =
      (decide (n1 = 3) && (decide (n4 ≠ 24) || decide (n100 = 3))) := by
  rw [isLeap, Bool.eq_iff_iff]
  simp only [Bool.and_eq_true, Bool.or_eq_true, decide_eq_true_eq]
  omega

/-- The date of a day that ends no cycle, its year in the place `n1` of its four. -/
theorem toDays_inYear {n400 n100 n4 n1 n : Nat} (h100 : n100 < 4) (h4 : n4 < 25) (h1 : n1 < 4)
    (hn : n < 366) :
    let leap := isLeap (n400 * 400 + 1 + n100 * 100 + n4 * 4 + n1)
    toDays ⟨n400 * 400 + 1 + n100 * 100 + n4 * 4 + n1, (ofYearDay leap n).1, (ofYearDay leap n).2⟩ =
      n400 * 146097 + n100 * 36524 + n4 * 1461 + n1 * 365 + n := by
  intro leap
  have hyear : n400 * 400 + 1 + n100 * 100 + n4 * 4 + n1 - 1 =
      n400 * 400 + n100 * 100 + n4 * 4 + n1 := by
    omega
  simp only [toDays]
  rw [hyear, yearDays_eq h100 h4 h1, Nat.add_assoc, monthStart_ofYearDay leap hn]

/-- 31 December, the last day of a leap year. -/
theorem toDays_yearEnd {year : Nat} (hleap : isLeap year = true) :
    toDays ⟨year, 12, 31⟩ =
      (year - 1) * 365 + (year - 1) / 4 - (year - 1) / 100 + (year - 1) / 400 + 365 := by
  have hmonth : monthStart true 12 = 335 := by decide
  simp only [toDays, hleap, hmonth]

theorem toDays_ofDays (days : Nat) : (ofDays days).toDays = days := by
  have hn400 : days = days / 146097 * 146097 + days % 146097 := by omega
  have hcycle : days % 146097 < 146097 := Nat.mod_lt _ (by decide)
  unfold ofDays
  generalize days / 146097 = n400 at hn400
  generalize days % 146097 = c at hn400 hcycle
  dsimp only
  have hc : c = c / 36524 * 36524 + c % 36524 := by omega
  have hcentury : c % 36524 < 36524 := Nat.mod_lt _ (by decide)
  have h100 : c / 36524 ≤ 4 := by omega
  have hlast : c / 36524 = 4 → c % 36524 = 0 := by omega
  generalize c / 36524 = n100 at hc h100 hlast
  generalize c % 36524 = e at hc hcentury hlast
  have he : e = e / 1461 * 1461 + e % 1461 := by omega
  have hfour : e % 1461 < 1461 := Nat.mod_lt _ (by decide)
  have h4 : e / 1461 < 25 := by omega
  generalize e / 1461 = n4 at he h4
  generalize e % 1461 = g at he hfour
  have hg : g = g / 365 * 365 + g % 365 := by omega
  have hyear : g % 365 < 365 := Nat.mod_lt _ (by decide)
  have h1 : g / 365 ≤ 4 := by omega
  have hend : g / 365 = 4 → g % 365 = 0 := by omega
  generalize g / 365 = n1 at hg h1 hend
  generalize g % 365 = n at hg hyear hend
  split
  · next hcases =>
      have hyears : isLeap (n400 * 400 + 1 + n100 * 100 + n4 * 4 + n1 - 1) = true := by
        rw [isLeap]
        simp only [Bool.and_eq_true, Bool.or_eq_true, decide_eq_true_eq]
        omega
      rw [toDays_yearEnd hyears]
      by_cases hcentury : n100 = 4
      · -- the 400 years end: the last year is the 3rd of the 24th four of the 3rd hundred
        have hprior : n400 * 400 + 1 + n100 * 100 + n4 * 4 + n1 - 1 - 1 =
            n400 * 400 + 3 * 100 + 24 * 4 + 3 := by
          omega
        rw [hprior, @yearDays_eq n400 3 24 3 (by decide) (by decide) (by decide)]
        omega
      · have hprior : n400 * 400 + 1 + n100 * 100 + n4 * 4 + n1 - 1 - 1 =
            n400 * 400 + n100 * 100 + n4 * 4 + 3 := by
          omega
        rw [hprior, @yearDays_eq n400 n100 n4 3 (by omega) h4 (by decide)]
        omega
  · next hcases =>
      have hin := @toDays_inYear n400 n100 n4 n1 n (by omega) h4 (by omega) (by omega)
      rw [isLeap_eq (by omega) h4 (by omega)] at hin
      rw [hin]
      omega

theorem ofDays_injective : Function.Injective ofDays := by
  intro a b h
  rw [← toDays_ofDays a, h, toDays_ofDays]

/-- From 1 January of the year 1000 on, a year has four digits. -/
theorem year_ofDays {days : Nat} (h : 364877 ≤ days) : 1000 ≤ (ofDays days).year := by
  unfold ofDays
  dsimp only
  split
  · dsimp only
    omega
  · dsimp only
    omega

end Date

/-! ### Numbers with leading zeros -/

theorem toList_zeroPad (width n : Nat) : (zeroPad width n).toList =
    List.replicate (width - (Nat.toDigits 10 n).length) '0' ++ Nat.toDigits 10 n := by
  rw [zeroPad, String.toList_ofList, Nat.toString_eq_ofList_toDigits, String.toList_ofList]

theorem isDigit_of_mem_zeroPad {width n : Nat} {c : Char} (h : c ∈ (zeroPad width n).toList) :
    c.isDigit = true := by
  rw [toList_zeroPad, List.mem_append] at h
  rcases h with h | h
  · rw [List.eq_of_mem_replicate h]
    decide
  · exact Nat.isDigit_of_mem_toDigits (by decide) (by decide) h

theorem zeroPad_injective (width : Nat) : Function.Injective (zeroPad width) := by
  intro a b h
  have hvalue (n : Nat) : Nat.ofDigitChars 10 (zeroPad width n).toList 0 = n := by
    rw [toList_zeroPad, Nat.ofDigitChars_append, Nat.ofDigitChars_replicate_zero, Nat.mul_zero,
      Nat.ofDigitChars_ten_toDigits]
  rw [← hvalue a, h, hvalue]

theorem zeroPad_eq_toString {width n : Nat} (hpos : 0 < width) (h : 10 ^ (width - 1) ≤ n) :
    zeroPad width n = toString n := by
  have hdigits : width ≤ (Nat.toDigits 10 n).length := by
    by_contra hshort
    cases hwidth : width - 1 with
    | zero =>
        have hne := List.length_pos_iff.mpr (@Nat.toDigits_ne_nil n 10)
        omega
    | succ places =>
        have hlt := (Nat.length_toDigits_le_iff (by decide) (by omega : 0 < width - 1)).mp
          (by omega : (Nat.toDigits 10 n).length ≤ width - 1)
        omega
  rw [← String.toList_inj, toList_zeroPad, Nat.sub_eq_zero_of_le hdigits, List.replicate_zero,
    List.nil_append, Nat.toString_eq_ofList_toDigits, String.toList_ofList]

/-! ### Lengths -/

theorem length_zeroPad_le {width n places : Nat} (hplaces : 0 < places) (h : n < 10 ^ places) :
    (zeroPad width n).toList.length ≤ max width places := by
  have hdigits : (toString n).toList.length ≤ places := by
    rw [String.length_toList]
    exact (Nat.length_repr_le_iff hplaces).mpr h
  rw [zeroPad, String.toList_ofList, List.length_append, List.length_replicate]
  omega

theorem Date.ofDays_lt {days : Nat} (h : days < 3652059) :
    (Date.ofDays days).year < 10 ^ 5 ∧ (Date.ofDays days).month < 10 ^ 2 ∧
      (Date.ofDays days).day < 10 ^ 3 := by
  unfold Date.ofDays Date.ofYearDay
  dsimp only
  split
  · dsimp only
    omega
  · dsimp only
    refine ⟨by omega, ?_, by omega⟩
    split <;> omega

theorem length_isoformat_le {date : Date} {seconds micros : Nat} (hyear : date.year < 10 ^ 5)
    (hmonth : date.month < 10 ^ 2) (hday : date.day < 10 ^ 3) (hseconds : seconds < 86400)
    (hmicros : micros < 10 ^ 6) : (isoformat date seconds micros).toList.length ≤ 40 := by
  have hdate := And.intro (@length_zeroPad_le 4 _ 5 (by omega) hyear)
    (And.intro (@length_zeroPad_le 2 _ 2 (by omega) hmonth) (@length_zeroPad_le 2 _ 3 (by omega) hday))
  have htwo {n : Nat} (h : n < 10 ^ 2) : (zeroPad 2 n).toList.length ≤ max 2 2 :=
    length_zeroPad_le (by omega) h
  have htime := And.intro (@htwo (seconds / 3600) (by omega))
    (And.intro (@htwo (seconds / 60 % 60) (by omega)) (@htwo (seconds % 60) (by omega)))
  have hfraction := @length_zeroPad_le 6 micros 6 (by omega) hmicros
  have hdot : (if micros = 0 then "" else "." ++ zeroPad 6 micros).toList.length ≤ 7 := by
    split
    · decide
    · rw [String.toList_append, List.length_append]
      exact Nat.add_le_add (le_refl 1) hfraction
  unfold isoformat
  simp only [String.toList_append, List.length_append]
  have hmarks : "-".toList.length = 1 ∧ "T".toList.length = 1 ∧ ":".toList.length = 1 ∧
      "+00:00".toList.length = 6 := by
    decide
  omega

theorem length_isoformatUtc_le {instant : Int} (h : Representable instant) :
    (isoformatUtc instant).toList.length ≤ 40 := by
  have hdays : instant.toNat / 86400000000 < 3652059 := by
    unfold Representable representableDays microsPerDay microsPerMinute at h
    omega
  obtain ⟨hyear, hmonth, hday⟩ := Date.ofDays_lt hdays
  exact length_isoformat_le hyear hmonth hday (Nat.mod_lt _ (by decide)) (Nat.mod_lt _ (by decide))

end Py
