/-!
# Dates, times of day and durations

Dates of the proleptic Gregorian calendar from year 1 to 9999, times of day to the microsecond
with an optional offset from UTC in seconds, and durations in microseconds.
-/

namespace Carryover
namespace Calendar

/-- Whether a year has 366 days. -/
def isLeap (year : Nat) : Bool :=
  year % 4 == 0 && (year % 100 != 0 || year % 400 == 0)

/-- The number of days of a month. -/
def daysInMonth (year month : Nat) : Nat :=
  if month == 2 then (if isLeap year then 29 else 28)
  else if month == 4 || month == 6 || month == 9 || month == 11 then 30
  else 31

/-- Whether a day exists. -/
def IsDate (year month day : Nat) : Prop :=
  1 ≤ year ∧ year ≤ 9999 ∧ 1 ≤ month ∧ month ≤ 12 ∧ 1 ≤ day ∧ day ≤ daysInMonth year month

instance (year month day : Nat) : Decidable (IsDate year month day) :=
  inferInstanceAs (Decidable (_ ∧ _ ∧ _ ∧ _ ∧ _ ∧ _))

/-- A day of the calendar. -/
structure Date where
  year : Nat
  month : Nat
  day : Nat
  exists_day : IsDate year month day
  deriving DecidableEq

/-- Whether a time of day exists. -/
def IsTime (hour minute second micro : Nat) : Prop :=
  hour < 24 ∧ minute < 60 ∧ second < 60 ∧ micro < 1000000

instance (hour minute second micro : Nat) : Decidable (IsTime hour minute second micro) :=
  inferInstanceAs (Decidable (_ ∧ _ ∧ _ ∧ _))

/-- A time of day, with its offset from UTC in seconds if it has one. -/
structure Time where
  hour : Nat
  minute : Nat
  second : Nat
  micro : Nat
  offset : Option Int
  exists_time : IsTime hour minute second micro
  deriving DecidableEq

/-- A day and a time of day. -/
structure DateTime where
  date : Date
  time : Time
  deriving DecidableEq

/-- A length of time in microseconds. -/
structure Duration where
  micros : Int
  deriving DecidableEq

namespace Date

/-- The day with these numbers, if it exists. -/
def of? (year month day : Nat) : Option Date :=
  if h : IsDate year month day then some ⟨year, month, day, h⟩ else none

/-- The day that many days after 1970-01-01. -/
def ofDays? (days : Int) : Option Date :=
  let z := days + 719468
  let era := Int.fdiv z 146097
  let doe := (z - era * 146097).toNat
  let yoe := (doe - doe / 1460 + doe / 36524 - doe / 146096) / 365
  let doy := doe - (365 * yoe + yoe / 4 - yoe / 100)
  let mp := (5 * doy + 2) / 153
  let day := doy - (153 * mp + 2) / 5 + 1
  let month := if mp < 10 then mp + 3 else mp - 9
  let year := (yoe : Int) + era * 400 + (if month ≤ 2 then 1 else 0)
  if year < 1 then none else of? year.toNat month day

/-- The days from 1970-01-01 to a day. -/
def days (d : Date) : Int :=
  let y : Int := if d.month ≤ 2 then (d.year : Int) - 1 else d.year
  let era := Int.fdiv y 400
  let yoe := y - era * 400
  let mp : Int := if d.month ≤ 2 then d.month + 9 else d.month - 3
  let doy := (153 * mp + 2) / 5 + d.day - 1
  let doe := yoe * 365 + yoe / 4 - yoe / 100 + doy
  era * 146097 + doe - 719468

end Date

namespace Time

/-- The time of day with these numbers, if it exists. -/
def of? (hour minute second micro : Nat) (offset : Option Int) : Option Time :=
  if h : IsTime hour minute second micro then some ⟨hour, minute, second, micro, offset, h⟩
  else none

/-- The beginning of a day. -/
def midnight : Time :=
  ⟨0, 0, 0, 0, none, by decide⟩

/-- The time of day that many microseconds after midnight. -/
def ofMicros? (micros : Nat) (offset : Option Int) : Option Time :=
  let seconds := micros / 1000000
  of? (seconds / 3600) (seconds / 60 % 60) (seconds % 60) (micros % 1000000) offset

end Time

namespace Duration

/-- A length of time in days, seconds and microseconds. -/
def of (days seconds micros : Int) : Duration :=
  ⟨(days * 86400 + seconds) * 1000000 + micros⟩

/-- The whole days, toward the past. -/
def days (d : Duration) : Int :=
  Int.fdiv d.micros 86400000000

/-- The seconds after the whole days. -/
def seconds (d : Duration) : Int :=
  Int.fmod d.micros 86400000000 / 1000000

/-- The microseconds after the whole seconds. -/
def microseconds (d : Duration) : Int :=
  Int.fmod d.micros 1000000

end Duration
end Calendar
end Carryover
