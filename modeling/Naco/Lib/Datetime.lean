import Naco.Lib.Python

/-!
# Dates and times

Python's `datetime` counts microseconds; here they are counted from the first instant it can
represent, `0001-01-01T00:00:00`, which was a Monday. An aware datetime is a wall clock reading with
its UTC offset, and a zone gives the offset of every UTC instant. Arithmetic that leaves the years 1
to 9999 raises `OverflowError`.

`time.fromisoformat` follows the C implementation of Python 3.12, which reads more than `HH:MM`: basic
notation, a leading `T`, fractions, and a UTC offset.
-/

namespace Py

def microsPerMinute : Int := 60000000

def microsPerDay : Int := 1440 * microsPerMinute

/-- The number of days from year 1 to year 9999. -/
def representableDays : Int := 3652059

/-- The wall clock reading is one that `datetime` can represent. -/
def Representable (wall : Int) : Prop :=
  0 ≤ wall ∧ wall < representableDays * microsPerDay

instance (wall : Int) : Decidable (Representable wall) :=
  inferInstanceAs (Decidable (_ ∧ _))

/-- A timezone-aware datetime. -/
structure Datetime where
  wall : Int
  utcoffset : Int
  deriving DecidableEq, Repr

namespace Datetime

/-- The UTC instant an aware datetime denotes. -/
def utc (d : Datetime) : Int :=
  d.wall - d.utcoffset

end Datetime

/-- A time zone, by the offset it gives to each UTC instant; offsets are shorter than a day. -/
structure Zone where
  utcoffset : Int → Int
  bounded : ∀ instant, -microsPerDay < utcoffset instant ∧ utcoffset instant < microsPerDay

/-- The zone with one offset at all times. -/
def Zone.fixed (offset : Int) (hoffset : -microsPerDay < offset ∧ offset < microsPerDay) : Zone :=
  ⟨fun _ => offset, fun _ => hoffset⟩

def Zone.utc : Zone :=
  Zone.fixed 0 (by decide)

/-- `d.astimezone(tz)`, as a wall clock reading. -/
def Datetime.astimezone (d : Datetime) (tz : Zone) : Except Error Int :=
  if ¬ Representable d.utc then
    .error (.overflowError "date value out of range")
  else if ¬ Representable (d.utc + tz.utcoffset d.utc) then
    .error (.overflowError "date value out of range")
  else
    .ok (d.utc + tz.utcoffset d.utc)

/-- `weekday()`, Monday being `0`. -/
def weekday (wall : Int) : Nat :=
  (wall / microsPerDay % 7).toNat

/-- The minute of the day. -/
def minuteOfDay (wall : Int) : Nat :=
  (wall % microsPerDay / microsPerMinute).toNat

/-- A reading of the system clock, `datetime.now(UTC)`. No clock stands on the first or the last day
of the calendar, so a reading can be shown in every zone. -/
structure ClockReading where
  utc : Int
  inRange : microsPerDay ≤ utc ∧ utc < (representableDays - 1) * microsPerDay

namespace ClockReading

def toDatetime (now : ClockReading) : Datetime :=
  ⟨now.utc, 0⟩

@[simp]
theorem toDatetime_utc (now : ClockReading) : now.toDatetime.utc = now.utc := by
  simp [toDatetime, Datetime.utc]

/-- Noon of 3 May 2024. -/
theorem inRange_may2024 :
    microsPerDay ≤ 63850334400000000 ∧ 63850334400000000 < (representableDays - 1) * microsPerDay := by
  decide

theorem astimezone_ok (now : ClockReading) (tz : Zone) :
    now.toDatetime.astimezone tz = .ok (now.utc + tz.utcoffset now.utc) := by
  have hrange := now.inRange
  have hoffset := tz.bounded now.utc
  have hday : microsPerDay = 86400000000 := by decide
  have hutc : Representable now.utc := by
    unfold Representable representableDays at *
    omega
  have hlocal : Representable (now.utc + tz.utcoffset now.utc) := by
    unfold Representable representableDays at *
    omega
  simp only [Datetime.astimezone, toDatetime_utc, hutc, hlocal, not_true_eq_false, if_false]

end ClockReading

/-! ### Times of day -/

/-- A `datetime.time`; the offset, in microseconds, is there for an aware one. -/
structure Time where
  hour : Nat
  minute : Nat
  second : Nat
  microsecond : Nat
  utcoffset : Option Int
  deriving DecidableEq, Repr

namespace Time

def naive (hour minute : Nat) : Time :=
  ⟨hour, minute, 0, 0, none⟩

/-- The microseconds since midnight. -/
def micros (t : Time) : Int :=
  (((t.hour * 60 + t.minute) * 60 + t.second) * 1000000 + t.microsecond : Nat)

/-- `a <= b`. Ordering a naive and an aware time raises `TypeError`. -/
def le (a b : Time) : Except Error Bool :=
  match a.utcoffset, b.utcoffset with
  | none, none => .ok (decide (a.micros ≤ b.micros))
  | some offsetA, some offsetB =>
      .ok (decide (a.micros - offsetA ≤ b.micros - offsetB))
  | _, _ => .error (.typeError "can't compare offset-naive and offset-aware times")

/-- `digits` decimal digits, and what follows them. -/
def parseDigits : Nat → List Char → Option (Nat × List Char)
  | 0, cs => some (0, cs)
  | _ + 1, [] => none
  | digits + 1, c :: cs =>
      if '0' ≤ c ∧ c ≤ '9' then
        (parseDigits digits cs).map fun (value, rest) =>
          ((c.toNat - '0'.toNat) * 10 ^ digits + value, rest)
      else
        none

/-- Reads the fraction of a second in the `length` characters up to the end of the part; the rest of
the text follows them. Whether something stands after the digits is returned too. -/
def parseFraction (length : Nat) (cs : List Char) : Option (Nat × Bool) :=
  let toParse := min length 6
  (parseDigits toParse cs).map fun (value, rest) =>
    (value * 10 ^ (6 - toParse),
      (rest.dropWhile fun c => decide ('0' ≤ c ∧ c ≤ '9')).head?.getD '\x00' != '\x00')

/-- Reads the fields `HH[:?MM[:?SS]]` and a fraction. `length` characters belong to the part, and
`cs` is the text from there on, which ends in an implicit NUL. The Boolean says that the part was
followed by something. `index` counts the fields, `separator` is whether they are separated by `:`. -/
def parseFields : Nat → Nat → Bool → Nat → List Char → Option (List Nat × Nat × Bool)
  | 0, _, _, length, cs =>
      (parseFraction length cs).map fun (micros, more) => ([], micros, more)
  | fields + 1, index, separator, length, cs =>
      match parseDigits 2 cs with
      | none => none
      | some (value, rest) =>
          let c := rest.head?.getD '\x00'
          let separator := if index = 0 then c = ':' else separator
          if length ≤ 3 then
            some ([value], 0, c != '\x00')
          else if separator ∧ c = ':' then
            (parseFields fields (index + 1) separator (length - 3) rest.tail).map
              fun (values, found) => (value :: values, found)
          else if c = '.' ∨ c = ',' then
            (parseFraction (length - 3) rest.tail).map
              fun (micros, more) => ([value], micros, more)
          else if ¬ separator then
            (parseFields fields (index + 1) separator (length - 2) rest).map
              fun (values, found) => (value :: values, found)
          else
            none

/-- The sign or `Z` that starts a UTC offset. -/
def startsOffset (c : Char) : Bool :=
  c == '+' || c == '-' || c == 'Z'

/-- The offset that follows the time, if there is one. -/
def parseOffset : List Char → Option (Option Int)
  | [] => some none
  | ['Z'] => some (some 0)
  | 'Z' :: _ => none
  | sign :: cs =>
      match parseFields 3 0 true cs.length cs with
      | some (values, micros, false) =>
          let offset := Time.micros ⟨values.getD 0 0, values.getD 1 0, values.getD 2 0, micros, none⟩
          some (some (if sign = '-' then -offset else offset))
      | _ => none

/-- The fields are in range. -/
def inRange (t : Time) : Bool :=
  t.hour < 24 && t.minute < 60 && t.second < 60 &&
    t.utcoffset.all fun offset => -microsPerDay < offset && offset < microsPerDay

/-- Reads a time that starts at its hour. -/
def parseIso (cs : List Char) : Option Time := do
  let offset := cs.dropWhile fun c => !startsOffset c
  let (values, micros, more) ← parseFields 3 0 true (cs.length - offset.length) cs
  let utcoffset ← parseOffset offset
  let time := ⟨values.getD 0 0, values.getD 1 0, values.getD 2 0, micros, utcoffset⟩
  -- something may follow the fields only where an offset starts
  if offset = [] ∧ more ∨ ¬ time.inRange then none else some time

/-- `time.fromisoformat(s)`. -/
def fromisoformat (s : String) : Except Error Time :=
  let cs := if s.toList.head? = some 'T' then s.toList.tail else s.toList
  match parseIso cs with
  | some time => .ok time
  | none => .error (.valueError s!"Invalid isoformat string: {s}")

theorem parseOffset_eq_none_iff {cs : List Char} {offset : Option Int}
    (h : parseOffset cs = some offset) : offset = none ↔ cs = [] := by
  unfold parseOffset at h
  split at h
  · cases h
    simp
  · cases h
    simp
  · cases h
  · split at h
    · cases h
      simp
    · cases h

/-- A time is naive exactly when no offset is written. -/
theorem utcoffset_eq_none_iff {s : String} {t : Time} (h : fromisoformat s = .ok t) :
    t.utcoffset = none ↔ ∀ c ∈ s.toList, startsOffset c = false := by
  unfold fromisoformat at h
  extract_lets cs at h
  have hparse : parseIso cs = some t := by
    split at h
    · cases h
      assumption
    · cases h
  have hchars : (∀ c ∈ cs, startsOffset c = false) ↔ ∀ c ∈ s.toList, startsOffset c = false := by
    unfold cs
    split
    · next hhead =>
        obtain ⟨rest, hrest⟩ := List.head?_eq_some_iff.mp hhead
        rw [hrest, List.tail_cons, List.forall_mem_cons]
        exact (and_iff_right (by decide)).symm
    · exact Iff.rfl
  simp only [parseIso, bind, Option.bind_eq_some_iff] at hparse
  obtain ⟨⟨values, micros, more⟩, -, utcoffset, hoffset, htime⟩ := hparse
  split at htime
  · cases htime
  · cases htime
    rw [parseOffset_eq_none_iff hoffset, List.dropWhile_eq_nil_iff, ← hchars]
    simp

end Time

end Py
