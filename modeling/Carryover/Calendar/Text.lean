import Carryover.Calendar.Basic

/-!
# The texts of dates, times and durations

| kind | ISO text | text among other values |
| --- | --- | --- |
| date | `2024-01-02` | `2024-01-02` |
| time | `03:04:05.000006+02:00` | the same |
| date and time | `2024-01-02T03:04:05` | with a space for the `T` |
| duration | `P1DT2.000003S` | `1 day, 0:00:02.000003` |

A UTC offset of zero is written `+00:00`, in JSON `Z`. In an ISO duration a year stands for 365
days, and the sign before it covers all of its parts.
-/

namespace Carryover
namespace Calendar

/-- A number with leading zeros up to a width. -/
def padded (width n : Nat) : String :=
  let ds := Nat.toDigits 10 n
  String.ofList (List.replicate (width - ds.length) '0' ++ ds)

/-- An offset from UTC as `+hh:mm`, with seconds where there are some. -/
def offsetText (offset : Int) : String :=
  let n := offset.natAbs
  let sign := if offset < 0 then "-" else "+"
  let minutes := sign ++ padded 2 (n / 3600) ++ ":" ++ padded 2 (n / 60 % 60)
  if n % 60 = 0 then minutes else minutes ++ ":" ++ padded 2 (n % 60)

namespace Date

/-- Year, month and day. -/
def iso (d : Date) : String :=
  padded 4 d.year ++ "-" ++ padded 2 d.month ++ "-" ++ padded 2 d.day

end Date

namespace Time

/-- A time of day, with `zero` for the offset zero. -/
def isoWith (zero : String) (t : Time) : String :=
  let clock := padded 2 t.hour ++ ":" ++ padded 2 t.minute ++ ":" ++ padded 2 t.second
  let clock := if t.micro = 0 then clock else clock ++ "." ++ padded 6 t.micro
  match t.offset with
  | none => clock
  | some 0 => clock ++ zero
  | some o => clock ++ offsetText o

/-- A time of day with a numeric offset. -/
def iso (t : Time) : String :=
  t.isoWith "+00:00"

end Time

namespace DateTime

/-- A day and a time of day with a numeric offset. -/
def iso (t : DateTime) : String :=
  t.date.iso ++ "T" ++ t.time.iso

/-- A day and a time of day, with `Z` for the offset zero. -/
def json (t : DateTime) : String :=
  t.date.iso ++ "T" ++ t.time.isoWith "Z"

/-- A day and a time of day, with a space between them. -/
def spaced (t : DateTime) : String :=
  t.date.iso ++ " " ++ t.time.iso

end DateTime

namespace Duration

/-- A number of seconds and microseconds without trailing zeros. -/
def secondsText (seconds micros : Nat) : String :=
  if micros = 0 then toString seconds
  else
    let places := ((padded 6 micros).toList.reverse.dropWhile (· == '0')).reverse
    toString seconds ++ "." ++ String.ofList places

/-- The ISO text of a duration. -/
def iso (d : Duration) : String :=
  let n := d.micros.natAbs
  let days := n / 86400000000
  let seconds := n / 1000000 % 86400
  let micros := n % 1000000
  let part (n : Nat) (mark : String) : String := if n = 0 then "" else toString n ++ mark
  let date := part (days / 365) "Y" ++ part (days % 365) "D"
  let rest :=
    if seconds % 60 = 0 && micros = 0 then "" else secondsText (seconds % 60) micros ++ "S"
  let time := part (seconds / 3600) "H" ++ part (seconds / 60 % 60) "M" ++ rest
  let body := if time = "" then date else date ++ "T" ++ time
  (if d.micros < 0 then "-P" else "P") ++ (if body = "" then "T0S" else body)

/-- A duration as days and a clock. -/
def render (d : Duration) : String :=
  let days := d.days
  let seconds := d.seconds.toNat
  let clock := toString (seconds / 3600) ++ ":" ++ padded 2 (seconds / 60 % 60) ++ ":" ++
    padded 2 (seconds % 60)
  let clock :=
    if d.microseconds = 0 then clock else clock ++ "." ++ padded 6 d.microseconds.toNat
  if days = 0 then clock
  else toString days ++ (if days.natAbs = 1 then " day, " else " days, ") ++ clock

end Duration
end Calendar
end Carryover
