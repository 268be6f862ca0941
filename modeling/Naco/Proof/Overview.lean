import Mathlib.Algebra.GroupWithZero.Nat
import Mathlib.Algebra.Order.Group.Nat
import Mathlib.Data.List.Basic
import Naco.Routes.Overview

/-!
# The hours of the dashboard

Rows are grouped by the text of their hour, and a bucket is looked up by the text `strftime` gives its
own. Both texts are read back to the number of the hour, so the series counts every decision of the
last 24 hours once, in its hour.
-/

namespace Naco

open Py

/-! ### The text of an hour -/

theorem digits_append_cons {a b x y : List Char} {mark : Char} (hmark : mark.isDigit = false)
    (ha : ∀ c ∈ a, c.isDigit = true) (hb : ∀ c ∈ b, c.isDigit = true)
    (h : a ++ mark :: x = b ++ mark :: y) : a = b ∧ x = y := by
  have hdigits {digits rest : List Char} (hall : ∀ c ∈ digits, c.isDigit = true) :
      (digits ++ mark :: rest).takeWhile Char.isDigit = digits := by
    rw [List.takeWhile_append_of_pos hall, List.takeWhile_cons_of_neg (by rw [hmark]; decide),
      List.append_nil]
  obtain rfl : a = b := by
    rw [← hdigits ha, h, hdigits hb]
  exact ⟨rfl, (List.cons.inj (List.append_cancel_left h)).2⟩

theorem toList_hourText (instant : Int) :
    let hours := (instant / microsPerHour).toNat
    (hourText (zeroPad 4) instant).toList = (zeroPad 4 (Date.ofDays (hours / 24)).year).toList ++ '-' ::
      ((zeroPad 2 (Date.ofDays (hours / 24)).month).toList ++ '-' ::
        ((zeroPad 2 (Date.ofDays (hours / 24)).day).toList ++ ' ' ::
          ((zeroPad 2 (hours % 24)).toList ++ ':' :: "00:00".toList))) := by
  intro hours
  have hmarks : "-".toList = ['-'] ∧ " ".toList = [' '] ∧ ":00:00".toList = ':' :: "00:00".toList := by
    decide
  simp only [hourText, String.toList_append, List.append_assoc, hmarks.1, hmarks.2.1,
    hmarks.2.2, List.cons_append, List.nil_append, hours]

/-- The text of an hour is that of no other hour. -/
theorem hourText_eq_iff {a b : Int} (ha : 0 ≤ a) (hb : 0 ≤ b) :
    hourText (zeroPad 4) a = hourText (zeroPad 4) b ↔ a / microsPerHour = b / microsPerHour := by
  constructor
  · intro h
    have htexts := congrArg String.toList h
    rw [toList_hourText, toList_hourText] at htexts
    have hpad {width n : Nat} : ∀ c ∈ (zeroPad width n).toList, c.isDigit = true :=
      fun _ hc => isDigit_of_mem_zeroPad hc
    obtain ⟨hyear, htexts⟩ := digits_append_cons (by decide) hpad hpad htexts
    obtain ⟨hmonth, htexts⟩ := digits_append_cons (by decide) hpad hpad htexts
    obtain ⟨hday, htexts⟩ := digits_append_cons (by decide) hpad hpad htexts
    obtain ⟨hhour, -⟩ := digits_append_cons (by decide) hpad hpad htexts
    have hdate := Date.ofDays_injective (Date.ext
      (zeroPad_injective 4 (String.toList_inj.mp hyear))
      (zeroPad_injective 2 (String.toList_inj.mp hmonth))
      (zeroPad_injective 2 (String.toList_inj.mp hday)))
    have hhours := zeroPad_injective 2 (String.toList_inj.mp hhour)
    unfold microsPerHour at *
    omega
  · intro h
    rw [hourText, h]
    rfl

/-- 1 January of the year 1000; from here on `strftime` writes a year in four digits. -/
def fourDigitYears : Int := (Date.toDays ⟨1000, 1, 1⟩ : Nat) * microsPerDay

theorem fourDigitYears_eq : fourDigitYears = 364877 * microsPerDay := by
  have hdays : Date.toDays ⟨1000, 1, 1⟩ = 364877 := by decide
  rw [fourDigitYears, hdays]
  rfl

theorem strftimeHour_eq {instant : Int} (h : fourDigitYears ≤ instant) :
    strftimeHour instant = hourText (zeroPad 4) instant := by
  have hday : 364877 ≤ (instant / microsPerHour).toNat / 24 := by
    rw [fourDigitYears_eq] at h
    unfold microsPerHour microsPerDay Py.microsPerMinute at *
    omega
  have hyear := Date.year_ofDays hday
  simp only [strftimeHour, hourText]
  rw [@zeroPad_eq_toString 4 _ (by decide) hyear]

/-- A datetime that rounded to the millisecond is still of its day. -/
def KeepsDay (instant : Int) : Prop :=
  0 ≤ instant ∧ instant < representableDays * microsPerDay ∧ instant % microsPerDay < microsPerDay - 500

instance (instant : Int) : Decidable (KeepsDay instant) :=
  inferInstanceAs (Decidable (_ ∧ _))

/-- What SQLite documents of `strftime('%Y-%m-%d %H:00:00', timestamp)`: the date, with the year in four
digits, and the hour. It computes to the millisecond, so nothing is said of an instant that is nearer to
the next day. -/
def WritesHours (strftime : Int → String) : Prop :=
  ∀ instant, KeepsDay instant → strftime instant = hourText (zeroPad 4) instant

/-! ### Decisions of a period -/

/-- A decision with this result, from `start` and before `stop`. -/
def decidedIn (result : AuthResult) (start stop : Int) (row : AuthLog) : Bool :=
  row.result = result && start ≤ row.timestamp && row.timestamp < stop

theorem countP_decidedIn_add (result : AuthResult) {start middle stop : Int} (hle : start ≤ middle)
    (hle' : middle ≤ stop) (logs : List AuthLog) :
    logs.countP (decidedIn result start middle) + logs.countP (decidedIn result middle stop) =
      logs.countP (decidedIn result start stop) := by
  induction logs with
  | nil => rfl
  | cons row logs ih =>
      have hrow : (if decidedIn result start middle row = true then 1 else 0) +
          (if decidedIn result middle stop row = true then 1 else 0) =
            if decidedIn result start stop row = true then 1 else 0 := by
        simp only [decidedIn, Bool.and_eq_true, decide_eq_true_eq]
        by_cases hresult : row.result = result
        · simp only [hresult, true_and]
          split <;> split <;> split <;> omega
        · simp only [hresult, false_and, if_false]
      rw [List.countP_cons, List.countP_cons, List.countP_cons, ← ih]
      omega

/-- Hours that follow one another count what lies in all of them. -/
theorem sum_countP_decidedIn (result : AuthResult) (start : Int) (logs : List AuthLog) (n : Nat) :
    ((List.range n).map fun i : Nat => logs.countP
        (decidedIn result (start + i * microsPerHour) (start + (i + 1) * microsPerHour))).sum =
      logs.countP (decidedIn result start (start + n * microsPerHour)) := by
  have hhour : 0 < microsPerHour := by decide
  induction n with
  | zero =>
      symm
      rw [List.range_zero, List.map_nil, List.sum_nil, List.countP_eq_zero]
      intro row _
      simp only [decidedIn, Bool.and_eq_true, decide_eq_true_eq]
      omega
  | succ n ih =>
      have hfirst : start ≤ start + n * microsPerHour := by
        have hpos := Int.mul_nonneg (Int.natCast_nonneg n) (le_of_lt hhour)
        omega
      have hsucc : start + n * microsPerHour ≤ start + (n + 1) * microsPerHour := by
        rw [Int.add_mul]
        omega
      rw [List.range_succ, List.map_append, List.sum_append, ih, List.map_singleton, List.sum_singleton,
        countP_decidedIn_add result hfirst hsucc]
      rfl

/-! ### The series -/

theorem AuthResult.value_injective : Function.Injective AuthResult.value := by
  intro a b h
  cases a <;> cases b <;> first | rfl | exact absurd h (by decide)

/-- The group of an hour and a result has the decisions from its start to the next hour. -/
theorem getNested_byHour {strftime : Int → String} (hstrftime : WritesHours strftime)
    {start hour : Int} (hstart : 0 ≤ start) (hwhole : hour % microsPerHour = 0) (hle : start ≤ hour)
    (result : AuthResult) {logs : List AuthLog}
    (hlogs : ∀ row ∈ logs, start ≤ row.timestamp → KeepsDay row.timestamp) :
    (Grouping.getNested (byHour strftime start logs) (hourText (zeroPad 4) hour) result.value).getD 0 =
      logs.countP (decidedIn result hour (hour + microsPerHour)) := by
  rw [byHour, Grouping.getNested_counts AuthResult.value_injective, List.countP_filter]
  refine List.countP_congr fun row hrow => ?_
  simp only [decidedIn, Bool.and_eq_true, decide_eq_true_eq, ge_iff_le, Prod.mk.injEq]
  constructor
  · rintro ⟨⟨hhour, hresult⟩, hsince⟩
    rw [hstrftime _ (hlogs row hrow hsince)] at hhour
    have hsame := (hourText_eq_iff (by omega) (by omega)).mp hhour
    unfold microsPerHour at *
    refine ⟨⟨hresult, ?_⟩, ?_⟩ <;> omega
  · rintro ⟨⟨hresult, hsince⟩, hbefore⟩
    refine ⟨⟨?_, hresult⟩, by omega⟩
    rw [hstrftime _ (hlogs row hrow (by omega)), hourText_eq_iff (by omega) (by omega)]
    unfold microsPerHour at *
    omega

theorem hourBucket_byHour {strftime : Int → String} (hstrftime : WritesHours strftime)
    {start hour : Int} (hyear : fourDigitYears ≤ start) (hwhole : hour % microsPerHour = 0)
    (hle : start ≤ hour) {logs : List AuthLog}
    (hlogs : ∀ row ∈ logs, start ≤ row.timestamp → KeepsDay row.timestamp) :
    hourBucket (byHour strftime start logs) hour =
      ⟨hour, logs.countP (decidedIn .accept hour (hour + microsPerHour)),
        logs.countP (decidedIn .reject hour (hour + microsPerHour))⟩ := by
  have hstart : 0 ≤ start := by
    rw [fourDigitYears_eq] at hyear
    unfold microsPerDay Py.microsPerMinute at hyear
    omega
  rw [hourBucket, strftimeHour_eq (le_trans hyear hle),
    getNested_byHour hstrftime hstart hwhole hle .accept hlogs,
    getNested_byHour hstrftime hstart hwhole hle .reject hlogs]

theorem dashboardStart_whole (now : ClockReading) : dashboardStart now % microsPerHour = 0 := by
  unfold dashboardStart microsPerHour
  omega

/-- The series is that of the 24 hours to the one of `now`, every decision of them counted once. -/
theorem dashboard_hours (strftime : Int → String) (hstrftime : WritesHours strftime) (now : ClockReading)
    (aaaLastRequest : Option Int) (admins : List AdminUser) (principal : Principal) (t : Tables)
    (hyear : fourDigitYears ≤ dashboardStart now)
    (hlogs : ∀ row ∈ t.authLogs, dashboardStart now ≤ row.timestamp → KeepsDay row.timestamp) :
    let start := dashboardStart now
    let series := (dashboard strftime now aaaLastRequest admins principal t).last24h
    series = ((List.range 24).map fun i : Nat =>
      let hour := start + i * microsPerHour
      let next := start + (i + 1) * microsPerHour
      { hour, accept := t.authLogs.countP (decidedIn .accept hour next)
        reject := t.authLogs.countP (decidedIn .reject hour next) }) ∧
    (series.map (·.accept)).sum =
      t.authLogs.countP (decidedIn .accept start (start + 24 * microsPerHour)) ∧
    (series.map (·.reject)).sum =
      t.authLogs.countP (decidedIn .reject start (start + 24 * microsPerHour)) ∧
    start + 23 * microsPerHour ≤ now.utc ∧ now.utc < start + 24 * microsPerHour := by
  intro start series
  have hseries : series = ((List.range 24).map fun i : Nat =>
      let hour := start + i * microsPerHour
      let next := start + (i + 1) * microsPerHour
      { hour, accept := t.authLogs.countP (decidedIn .accept hour next)
        reject := t.authLogs.countP (decidedIn .reject hour next) }) := by
    refine List.map_congr_left fun i _ => ?_
    have hpos : 0 ≤ (i : Int) * microsPerHour := Int.mul_nonneg (Int.natCast_nonneg i) (by decide)
    have hwhole : (start + i * microsPerHour) % microsPerHour = 0 := by
      rw [Int.add_mul_emod_self_right]
      exact dashboardStart_whole now
    have hnext : start + (i + 1) * microsPerHour = start + i * microsPerHour + microsPerHour := by
      rw [Int.add_mul, Int.one_mul, Int.add_assoc]
    rw [hourBucket_byHour hstrftime hyear hwhole (by omega) hlogs]
    simp only [hnext]
  refine ⟨hseries, ?_, ?_, ?_⟩
  · rw [hseries, List.map_map]
    exact sum_countP_decidedIn .accept start t.authLogs 24
  · rw [hseries, List.map_map]
    exact sum_countP_decidedIn .reject start t.authLogs 24
  · have hstart : start = (now.utc - 23 * microsPerHour) / microsPerHour * microsPerHour := rfl
    unfold microsPerHour at *
    omega

/-- Ana is let in at the first microsecond of the series and refused at the end of that day, at 23:59:59.999;
a microsecond before the series she was let in as well. -/
def morningLogs : List AuthLog :=
  [(63850251600000000, AuthResult.accept), (63850251599999999, .accept), (63850291199999000, .reject)].zipIdx.map
    fun ((timestamp, result), id) =>
      { id := id + 1, timestamp, username := "ana", macAddress := "", nasIp := "10.0.0.1",
        nasName := "sw1", ssid := "", authMethod := "PAP", result, reason := "", policyName := "lan",
        vlan := none, decisionDigest := "" }

theorem dashboard_hours_morning :
    let now : ClockReading := ⟨63850334400000000, ClockReading.inRange_may2024⟩
    let series := (dashboard (hourText (zeroPad 4)) now none []
      ⟨.token, "read", .viewer, none, none, some 1, "", none, ""⟩ { authLogs := morningLogs }).last24h
    series.map (fun bucket => (bucket.accept, bucket.reject)) =
      (1, 0) :: List.replicate 9 (0, 0) ++ (0, 1) :: List.replicate 13 (0, 0) := by
  intro now series
  obtain ⟨hseries, -⟩ := dashboard_hours (hourText (zeroPad 4)) (fun _ _ => rfl) now none []
    ⟨.token, "read", .viewer, none, none, some 1, "", none, ""⟩ { authLogs := morningLogs } (by decide)
    (by decide)
  refine (congrArg (List.map fun bucket => (bucket.accept, bucket.reject)) hseries).trans ?_
  decide +kernel

end Naco
